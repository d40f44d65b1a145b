import Ansible.Issuer.HostedApi
import Ansible.Issuer.Registry
import Ansible.Lib.Run

/-!
# What a request does to the registry

Over a store that obeys the laws, a request either leaves the registry as it is or
does to it one of a few things, after the checks of its handler.  Runs of requests
are reasoned about through these, whatever the store.

## Main results

* `effect` — **every request has such an effect.**
-/

namespace Ansible.Hosted

/-- The enrolment is signed by the key that it brings, and by an enrolled administrator. -/
structure EnrolmentSigned (C : Crypto) (c : Registry) (tid inviterDID : String)
    (q : AdministratorEnrollmentRequest) (canonical applicantSignature inviterSignature : Binary)
    (inviter : Administrator) : Prop where
  text : canonicalEnrollment q = some canonical
  byApplicant : decodeHex q.applicantSignature = some applicantSignature
  byInviter : decodeHex q.inviterSignatureHex = some inviterSignature
  applicantVerifies :
    verifyAdministratorSignature C q.applicant canonical applicantSignature = .ok ()
  enrolled : activeAdministrator (c.admins tid).values inviterDID = some inviter
  inviterVerifies : verifyAdministratorSignature C inviter canonical inviterSignature = .ok ()

/-- What a request does to a registry, and what has been checked by then. -/
inductive Effect (C : Crypto) (serve : Binary → Option Binary) (env : Env) (c c' : Registry)
    (r : Request) : Prop where
  | same (h : c' = c)
  | bootstrapped (q : BootstrapRequest) (tid : String) (t' : Tenant)
      (m : Assoc String Administrator)
      (hr : r = .bootstrap q) (hnew : c.tenants tid = none)
      (hthreshold : t'.threshold = q.approvalThreshold)
      (hcount : t'.administratorCount = q.administratorCount)
      (hpos : 1 ≤ q.approvalThreshold ∧ q.approvalThreshold ≤ q.administratorCount)
      (howner : q.ownerKeyAlgorithm = "p256-sha256" ∧ q.ownerCustody = "hardware")
      (hm : m = ∅ ∨ m = c.admins tid)
      (h : c' = { c.setAdmin tid m
          { q.owner with tenantID := tid, role := "owner", state := "active" }
        with tenants := Function.update c.tenants tid (some t') })
  | registered (tid : String) (capability : Option String) (kmsKeyVersion : String) (version : ℤ)
      (k : SigningKey) (hr : r = .registerKey tid capability kmsKeyVersion version)
      (hid : k.id = env.newID) (hnew : c.signingKeys tid k.id = none)
      (h : c' = { c with signingKeys := set₂ c.signingKeys tid k.id k })
  | enrolled (tid inviterDID : String) (q : AdministratorEnrollmentRequest) (t : Tenant)
      (hr : r = .addAdministrator tid (some inviterDID) q)
      (hwf : q.wellFormed tid env.now = true)
      (ht : c.tenants tid = some t)
      (hroom : q.administratorDID ∈ c.admins tid ∨ t.administratorCount ≤ 0 ∨
        ((c.admins tid).keys.length : ℤ) < t.administratorCount)
      (canonical applicantSignature inviterSignature : Binary) (inviter : Administrator)
      (hsigned : EnrolmentSigned C c tid inviterDID q canonical applicantSignature
        inviterSignature inviter)
      (h : c' = c.setAdmin tid (c.admins tid) { q.applicant with tenantID := tid })
  | proposed (tid : String) (capability : Option String) (id signingKeyID : String)
      (payload : Binary) (t : Tenant) (d : Delegation) (canonicalJSON : Binary)
      (notBefore expiresAt : Time)
      (hr : r = .proposeDelegation tid capability id signingKeyID payload)
      (ht : c.tenants tid = some t) (hd : Governance.validateDelegation C t payload = .ok d)
      (hserve : serve payload = some canonicalJSON) (i : String)
      (h : c' = { c with
        delegations := set₂ c.delegations tid i
          { d with
            id := i, signingKeyID, tenantID := tid, canonicalJSON, notBefore, expiresAt
            state := "proposed", approvals := ∅ } })
  | approved (tid id did : String) (payload signature : Binary) (signatureHex : String)
      (d : Delegation) (admin : Administrator)
      (hr : r = .approveDelegation tid id (some did) payload signatureHex)
      (hsignature : decodeHex signatureHex = some signature)
      (hadmin : activeAdministrator (c.admins tid).values did = some admin)
      (hverify : verifyAdministratorSignature C admin payload signature = .ok ())
      (hd : c.delegations tid id = some d)
      (h : c' = { c with
        delegations := set₂ c.delegations tid id
          { d with approvals := d.approvals.insert did signature } })
  | restated (h : c.Restated c')
  | templated (tid : String) (t : Tenant) (x : CredentialTemplate)
      (templates : String → CredentialTemplate → Prop) (ht : c.tenants tid = some t)
      (hx : x.approvalThreshold = t.threshold)
      (hfrom : ∀ tid' y, templates tid' y →
        (∃ z, c.templates tid' z ∧ y = { z with active := y.active }) ∨
        (tid' = tid ∧ y = { x with tenantID := tid }))
      (h : c' = { c with templates })
  | applied (tid : String) (q : IssuanceRequest) (hnew : c.requests tid q.id = none)
      (hstate : q.state = "pending") (h : c' = { c with requests := set₂ c.requests tid q.id q })
  | decided (tid rid did state : String) (d : IssuanceDecision) (q : IssuanceRequest)
      (admin : Administrator) (canonical signature : Binary) (a : IssuanceApproval)
      (x : CredentialTemplate) (hr : r = .decide tid d.requestID (some did) d)
      (hcanonical : canonicalDecision d = some canonical)
      (hsignature : decodeHex d.signatureHex = some signature)
      (hadmin : activeAdministrator (c.admins tid).values did = some admin)
      (hverify : verifyAdministratorSignature C admin canonical signature = .ok ())
      (hq : c.requests tid d.requestID = some q) (hrid : rid = d.requestID ∨ rid = q.id)
      (hx : c.templates tid x) (ha : a.approverDID = did)
      (hstate : state = "approved" → q.state = "approved" ∨
        x.approvalThreshold ≤ approving ((c.decisions tid rid).insert did a))
      (h : c' = { c with
        requests := set₂ c.requests tid rid { q with state }
        decisions := Function.update c.decisions tid
          (Function.update (c.decisions tid) rid ((c.decisions tid rid).insert did a)) })
  | offered (tid rid : String) (q : IssuanceRequest) (hq : c.requests tid rid = some q)
      (h : c' = { c with requests := set₂ c.requests tid rid { q with state := "offered" } })

/-! ### Delegations, approvals and decisions -/

section Evidence

variable {C : Crypto} {serve : Binary → Option Binary} {env : Env} {c c' : Registry} {r : Request}
  {tid : String}

/-- **An approval was there, or is the verified signature of an enrolled administrator.** -/
theorem Effect.approval (h : Effect C serve env c c' r) {i did : String} {d' : Delegation}
    {signature : Binary} (hd' : c'.delegations tid i = some d')
    (hsig : d'.approvals.lookup did = some signature) :
    (∃ d, c.delegations tid i = some d ∧ d.sequence = d'.sequence ∧
      d.canonicalJSON = d'.canonicalJSON ∧ d.approvals.lookup did = some signature) ∨
    ∃ admin payload signatureHex, r = .approveDelegation tid i (some did) payload signatureHex ∧
      decodeHex signatureHex = some signature ∧
      activeAdministrator (c.admins tid).values did = some admin ∧
      verifyAdministratorSignature C admin payload signature = .ok () := by
  have hkept : c'.delegations = c.delegations → ∃ d, c.delegations tid i = some d ∧
      d.sequence = d'.sequence ∧ d.canonicalJSON = d'.canonicalJSON ∧
      d.approvals.lookup did = some signature := by
    intro h
    exact ⟨d', h ▸ hd', rfl, rfl, hsig⟩
  cases h with
  | proposed _ _ _ _ _ _ _ _ _ _ _ _ _ _ i' h =>
    subst h
    rcases of_set₂ hd' with ⟨-, -, hd⟩ | hd
    · rw [hd] at hsig
      cases hsig
    · exact .inl ⟨d', hd, rfl, rfl, hsig⟩
  | approved tid' id adminDID payload sig signatureHex d admin hr hsignature hadmin hverify hd h =>
    subst h
    rcases of_set₂ hd' with ⟨rfl, rfl, rfl⟩ | hd'
    · rw [show AList.lookup did _ = _ from Assoc.lookup_insert' ..] at hsig
      split at hsig
      · rename_i hdid
        subst hdid
        cases hsig
        exact .inr ⟨admin, payload, signatureHex, hr, hsignature, hadmin, hverify⟩
      · exact .inl ⟨d, hd, rfl, rfl, hsig⟩
    · exact .inl ⟨d', hd', rfl, rfl, hsig⟩
  | restated h =>
    obtain ⟨d, state, hd, rfl⟩ := h.delegations tid i d' hd'
    exact .inl ⟨d, hd, rfl, rfl, hsig⟩
  | _ =>
    rename_i h
    subst h
    exact .inl (hkept rfl)

/-- **A decision was there, or its approver has signed it.** -/
theorem Effect.decision (h : Effect C serve env c c' r) {rid did : String} {x : IssuanceApproval}
    (hx : (c'.decisions tid rid).lookup did = some x) :
    (c.decisions tid rid).lookup did = some x ∨
    ∃ admin d canonical signature, r = .decide tid d.requestID (some did) d ∧
      canonicalDecision d = some canonical ∧ decodeHex d.signatureHex = some signature ∧
      activeAdministrator (c.admins tid).values did = some admin ∧
      verifyAdministratorSignature C admin canonical signature = .ok () := by
  have hkept : c'.decisions = c.decisions → (c.decisions tid rid).lookup did = some x := by
    intro h
    rwa [← h]
  cases h with
  | decided tid' rid' did' state d q admin canonical signature a y hr hcanonical hsignature hadmin
      hverify hq hrid hy ha hstate h =>
    subst h
    by_cases htid : tid = tid'
    · subst htid
      by_cases hrid' : rid = rid'
      · subst hrid'
        simp only [Function.update_self, Assoc.lookup_insert'] at hx
        split at hx
        · rename_i hdid
          subst hdid
          exact .inr ⟨admin, d, canonical, signature, hr, hcanonical, hsignature, hadmin, hverify⟩
        · exact .inl hx
      · simp only [Function.update_self, Function.update_of_ne hrid'] at hx
        exact .inl hx
    · simp only [Function.update_of_ne htid] at hx
      exact .inl hx
  | restated h => exact .inl (hkept h.decisions)
  | _ =>
    rename_i h
    subst h
    exact .inl (hkept rfl)

/-- **A request that becomes approved has enough approving decisions.** -/
theorem Effect.approved_request (h : Effect C serve env c c' r) {rid : String}
    {q' : IssuanceRequest} (hq' : c'.requests tid rid = some q') (hstate' : q'.state = "approved") :
    (∃ q, c.requests tid rid = some q ∧ q.state = "approved") ∨
    ∃ x asked q, c.templates tid x ∧ c.requests tid asked = some q ∧
      (rid = asked ∨ rid = q.id) ∧
      (q.state = "approved" ∨ x.approvalThreshold ≤ approving (c'.decisions tid rid)) := by
  have hkept : c'.requests = c.requests → ∃ q, c.requests tid rid = some q ∧
      q.state = "approved" := by
    intro h
    exact ⟨q', h ▸ hq', hstate'⟩
  cases h with
  | applied tid' q hnew hstate h =>
    subst h
    rcases of_set₂ hq' with ⟨-, -, rfl⟩ | hq
    · rw [hstate] at hstate'
      exact absurd hstate' (by decide)
    · exact .inl ⟨q', hq, hstate'⟩
  | decided tid' rid' did' state d q admin canonical signature a y hr hcanonical hsignature hadmin
      hverify hq hrid hy ha hstate h =>
    subst h
    rcases of_set₂ hq' with ⟨rfl, rfl, rfl⟩ | hq
    · refine .inr ⟨y, d.requestID, q, hy, hq, hrid, (hstate hstate').imp_right fun h => ?_⟩
      simpa only [Function.update_self] using h
    · exact .inl ⟨q', hq, hstate'⟩
  | offered tid' rid' q hq h =>
    subst h
    rcases of_set₂ hq' with ⟨-, -, rfl⟩ | hq
    · exact absurd (show "offered" = "approved" from hstate') (by decide)
    · exact .inl ⟨q', hq, hstate'⟩
  | restated h => exact .inl (hkept h.requests)
  | _ =>
    rename_i h
    subst h
    exact .inl (hkept rfl)

/-- **A delegation was there, or is proposed**: an id, a key and a document come together. -/
theorem Effect.delegation (h : Effect C serve env c c' r) {i : String} {d' : Delegation}
    (hd' : c'.delegations tid i = some d') :
    (∃ d, c.delegations tid i = some d ∧
      d' = { d with state := d'.state, approvals := d'.approvals }) ∨
    ∃ capability id signingKeyID payload t d canonicalJSON notBefore expiresAt,
      r = .proposeDelegation tid capability id signingKeyID payload ∧
      Governance.validateDelegation C t payload = .ok d ∧ serve payload = some canonicalJSON ∧
      d' = { d with
        id := i, signingKeyID, tenantID := tid, canonicalJSON, notBefore, expiresAt
        state := "proposed", approvals := ∅ } := by
  have hkept : c'.delegations = c.delegations → ∃ d, c.delegations tid i = some d ∧
      d' = { d with state := d'.state, approvals := d'.approvals } := by
    intro h
    exact ⟨d', h ▸ hd', rfl⟩
  cases h with
  | proposed tid' capability id signingKeyID payload t d canonicalJSON notBefore expiresAt hr ht hd
      hserve i' h =>
    subst h
    rcases of_set₂ hd' with ⟨rfl, rfl, rfl⟩ | hd'
    · exact .inr ⟨capability, id, signingKeyID, payload, t, d, canonicalJSON, notBefore, expiresAt,
        hr, hd, hserve, rfl⟩
    · exact .inl ⟨d', hd', rfl⟩
  | approved tid' id adminDID payload sig signatureHex d admin hr hsignature hadmin hverify hd h =>
    subst h
    rcases of_set₂ hd' with ⟨rfl, rfl, rfl⟩ | hd'
    · exact .inl ⟨d, hd, rfl⟩
    · exact .inl ⟨d', hd', rfl⟩
  | restated h =>
    obtain ⟨d, state, hd, rfl⟩ := h.delegations tid i d' hd'
    exact .inl ⟨d, hd, rfl⟩
  | _ =>
    rename_i h
    subst h
    exact .inl (hkept rfl)

/-- **A signing key was there, or is registered under the id that is drawn.** -/
theorem Effect.signingKey (h : Effect C serve env c c' r) {kid : String} {key : SigningKey}
    (hkey : c'.signingKeys tid kid = some key) :
    c.signingKeys tid kid = some key ∨
    ∃ capability kmsKeyVersion version,
      r = .registerKey tid capability kmsKeyVersion version ∧ kid = env.newID := by
  have hkept : c'.signingKeys = c.signingKeys → c.signingKeys tid kid = some key := by
    intro h
    rwa [← h]
  cases h with
  | registered tid' capability kmsKeyVersion version k hr hid hnew h =>
    subst h
    rcases of_set₂ hkey with ⟨rfl, rfl, rfl⟩ | hkey
    · exact .inr ⟨capability, kmsKeyVersion, version, hr, hid⟩
    · exact .inl hkey
  | restated h => exact .inl (hkept h.signingKeys)
  | _ =>
    rename_i h
    subst h
    exact .inl (hkept rfl)

end Evidence

section Effects

variable {σ : Type} {C : Crypto} {S : StoreOps σ} {reg : σ → Registry}
  {serve : Binary → Option Binary} (hL : Laws S reg serve) (kms : KMS) (env : Env)

include hL

variable {tid eventType actorDID material : String}

theorem registry_auditEvent {v : ℤ} {s : σ} :
    reg (Api.auditEvent C S env tid eventType actorDID material v s).2 = reg s :=
  hL.appendAudit rfl

theorem registry_audited {s : σ} :
    reg (Api.audited C S env tid eventType actorDID material s).2 = reg s := by
  have haudit : reg (Api.audit C S env tid eventType actorDID material s).2 = reg s := by
    unfold Api.audit
    split
    · rfl
    · exact registry_auditEvent hL env
  unfold Api.audited
  split
  · rename_i h
    rw [h] at haudit
    exact haudit
  · rename_i h
    rw [h] at haudit
    exact haudit

theorem registry_logged {v : ℤ} {e : ℕ × String} {s : σ} :
    reg (Api.logged C S env tid eventType actorDID material v e s).2 = reg s := by
  have haudit : reg (Api.auditEvent C S env tid eventType actorDID material v s).2 = reg s :=
    registry_auditEvent hL env
  unfold Api.logged
  split
  · rename_i h
    rw [h] at haudit
    exact haudit
  · rename_i h
    rw [h] at haudit
    exact haudit

theorem effect_bootstrap (q : BootstrapRequest) (s : σ) :
    Effect C serve env (reg s) (reg (Api.bootstrap C S env q s).2) (.bootstrap q) := by
  unfold Api.bootstrap
  split
  · exact .same rfl
  rename_i hok
  simp only [not_or, not_not] at hok
  obtain ⟨-, -, -, -, -, hthreshold, hcount, -, halgorithm, hcustody, -, -⟩ := hok
  have hpos : 1 ≤ q.approvalThreshold ∧ q.approvalThreshold ≤ q.administratorCount :=
    ⟨Int.not_lt.1 hthreshold, Int.not_lt.1 hcount⟩
  dsimp only
  split
  · rename_i s' h
    rcases hL.bootstrapTenant h with hsame | ⟨_, _, hr, _⟩
    · exact .same hsame
    · cases hr
  · rename_i s' h
    rw [registry_audited hL env]
    rcases hL.bootstrapTenant h with hsame | ⟨t', m, -, hnew, hth, hct, hm, heq⟩
    · exact .same hsame
    · refine .bootstrapped q env.newID t' m rfl hnew hth (hct ?_) hpos ⟨halgorithm, hcustody⟩ hm heq
      show q.administratorCount ≠ 0
      omega

theorem effect_registerKey (tid : String) (capability : Option String) (kmsKeyVersion : String)
    (version : ℤ) (s : σ) : Effect C serve env (reg s)
      (reg (Api.registerKey C S kms env tid capability kmsKeyVersion version s).2)
      (.registerKey tid capability kmsKeyVersion version) := by
  unfold Api.registerKey
  split
  · exact .same rfl
  split
  · exact .same rfl
  rename_i adminDID _ key hkey
  have hid : key.id = env.newID := by
    unfold Api.hsmKey at hkey
    split at hkey
    · cases hkey
    split at hkey
    · cases hkey
    split at hkey
    · cases hkey
    · cases hkey
      rfl
  have hput : ∀ result s', S.putSigningKey tid key s = (result, s') →
      Effect C serve env (reg s) (reg s')
        (.registerKey tid (some adminDID) kmsKeyVersion version) := by
    intro result s' h
    rcases hL.putSigningKey h with hsame | ⟨createdAt, hnew, heq⟩
    · exact .same hsame
    · exact .registered tid (some adminDID) kmsKeyVersion version
        { key with tenantID := tid, createdAt } rfl hid hnew heq
  split
  · rename_i s' h
    exact hput _ _ h
  · rename_i s' h
    rw [registry_audited hL env]
    exact hput _ _ h

/-- An intent that verifies is signed by an enrolled administrator. -/
theorem of_verifyAdministratorIntent {did : String} {message signature : Binary} {s : σ}
    (h : Governance.verifyAdministratorIntent C S tid did message signature s = .ok ()) :
    ∃ admin, activeAdministrator ((reg s).admins tid).values did = some admin ∧
      verifyAdministratorSignature C admin message signature = .ok () := by
  unfold Governance.verifyAdministratorIntent at h
  cases hl : S.administrators tid s with
  | error e =>
    rw [hl] at h
    cases h
  | ok l =>
    rw [hl] at h
    obtain rfl := hL.administrators hl
    dsimp only [bind, Except.bind] at h
    split at h
    · cases h
    · rename_i admin hadmin
      exact ⟨admin, hadmin, h⟩

theorem effect_addAdministrator (tid : String) (capability : Option String)
    (q : AdministratorEnrollmentRequest) (s : σ) :
    Effect C serve env (reg s) (reg (Api.addAdministrator C S env tid capability q s).2)
      (.addAdministrator tid capability q) := by
  unfold Api.addAdministrator
  split
  · exact .same rfl
  rename_i inviterDID
  split
  · exact .same rfl
  rename_i hok
  rw [not_or, not_not, not_not] at hok
  obtain ⟨hwf, hsigned⟩ := hok
  have hput : ∀ result s', S.putAdministrator tid q.applicant s = (result, s') →
      Effect C serve env (reg s) (reg s') (.addAdministrator tid (some inviterDID) q) := by
    intro result s' h
    rcases hL.putAdministrator h with hsame | ⟨t, -, ht, hroom, heq⟩
    · exact .same hsame
    · unfold AdministratorEnrollmentRequest.signed at hsigned
      split at hsigned
      · rename_i applicantSignature inviterSignature canonical happ hinv hcan
        rw [Bool.and_eq_true, beq_iff_eq, beq_iff_eq] at hsigned
        obtain ⟨inviter, hinviter, hverify⟩ := of_verifyAdministratorIntent hL hsigned.2
        exact .enrolled tid inviterDID q t rfl hwf ht hroom canonical applicantSignature
          inviterSignature inviter ⟨hcan, happ, hinv, hsigned.1, hinviter, hverify⟩ heq
      · cases hsigned
  split
  · rename_i s' h
    exact hput _ _ h
  · rename_i s' h
    rw [registry_audited hL env]
    exact hput _ _ h

theorem effect_proposeDelegation (tid : String) (capability : Option String)
    (id signingKeyID : String) (payload : Binary) (s : σ) :
    Effect C serve env (reg s)
      (reg (Api.proposeDelegation C S env tid capability id signingKeyID payload s).2)
      (.proposeDelegation tid capability id signingKeyID payload) := by
  unfold Api.proposeDelegation
  split
  · exact .same rfl
  rename_i adminDID
  split
  · exact .same rfl
  rename_i t ht
  split
  · exact .same rfl
  rename_i d hd
  obtain ⟨_, _, hjson, -, -⟩ := Governance.validateDelegation_eq_ok hd
  dsimp only
  split
  · exact .same rfl
  have hpropose : ∀ result s', S.proposeDelegation tid
      { d with id := if id = "" then env.newID else id, signingKeyID } s = (result, s') →
      Effect C serve env (reg s) (reg s')
        (.proposeDelegation tid (some adminDID) id signingKeyID payload) := by
    intro result s' h
    rcases hL.proposeDelegation h with hsame | ⟨canonicalJSON, nb, ea, -, hserve, heq⟩
    · exact .same hsame
    · exact .proposed tid (some adminDID) id signingKeyID payload t d canonicalJSON nb ea rfl
        (hL.tenant ht) hd (hjson ▸ hserve) _ heq
  split
  · rename_i s' h
    exact hpropose _ _ h
  · rename_i s' h
    rw [registry_audited hL env]
    exact hpropose _ _ h

theorem effect_approveDelegation (tid id : String) (capability : Option String) (payload : Binary)
    (signatureHex : String) (s : σ) :
    Effect C serve env (reg s)
      (reg (Api.approveDelegation C S env tid id capability payload signatureHex s).2)
      (.approveDelegation tid id capability payload signatureHex) := by
  unfold Api.approveDelegation
  split
  · exact .same rfl
  rename_i did
  split
  · exact .same rfl
  rename_i signature hsignature
  have happrove : ∀ result s', Governance.approveDelegation C S tid id did payload signature s =
      (result, s') → Effect C serve env (reg s) (reg s')
        (.approveDelegation tid id (some did) payload signatureHex) := by
    intro result s' h
    rcases Governance.approveDelegation_cases C S tid id did payload signature s with
      hsame | ⟨admins, admin, hadmins, hadmin, hverify, heq⟩
    · rw [h] at hsame
      exact .same (congrArg reg hsame)
    · rw [h] at heq
      obtain rfl := hL.administrators hadmins
      rcases hL.approveDelegation heq.symm with hsame | ⟨d, _, -, hd, -, -, heq⟩
      · exact .same hsame
      · exact .approved tid id did payload signature signatureHex d admin rfl hsignature hadmin
          hverify hd heq
  split
  · rename_i s' h
    exact happrove _ _ h
  · rename_i s' h
    rw [registry_audited hL env]
    exact happrove _ _ h

theorem effect_activateDelegation (tid id : String) (capability : Option String) (s : σ) :
    Effect C serve env (reg s) (reg (Api.activateDelegation C S env tid id capability s).2)
      (.activateDelegation tid id capability) := by
  unfold Api.activateDelegation
  split
  · exact .same rfl
  split
  · rename_i s' h
    exact .restated (hL.activateDelegation h).1
  · rename_i s' h
    rw [registry_audited hL env]
    exact .restated (hL.activateDelegation h).1

theorem effect_revokeDelegation (tid id : String) (capability : Option String) (s : σ) :
    Effect C serve env (reg s) (reg (Api.revokeDelegation C S env tid id capability s).2)
      (.revokeDelegation tid id capability) := by
  unfold Api.revokeDelegation
  split
  · exact .same rfl
  split
  · rename_i s' h
    exact .restated (hL.revokeDelegation h)
  · rename_i s' h
    rw [registry_audited hL env]
    exact .restated (hL.revokeDelegation h)

theorem effect_putTemplate (tid : String) (capability : Option String) (version maxTTLDays : ℤ)
    (active : Bool) (s : σ) :
    Effect C serve env (reg s)
      (reg (Api.putTemplate C S env tid capability version maxTTLDays active s).2)
      (.putTemplate tid capability version maxTTLDays active) := by
  unfold Api.putTemplate
  split
  · exact .same rfl
  rename_i adminDID
  split
  · exact .same rfl
  rename_i t ht
  split
  · exact .same rfl
  have hput : ∀ result s', S.putCredentialTemplate tid
      (Api.membershipTemplate t tid version maxTTLDays active) env.order s = (result, s') →
      Effect C serve env (reg s) (reg s')
        (.putTemplate tid (some adminDID) version maxTTLDays active) := by
    intro result s' h
    obtain ⟨templates, hfrom, heq⟩ := hL.putCredentialTemplate h
    exact .templated tid t _ templates (hL.tenant ht) rfl hfrom heq
  split
  · rename_i s' h
    exact hput _ _ h
  · rename_i s' h
    rw [registry_logged hL env]
    exact hput _ _ h

theorem effect_apply (tid : String) (holder : Option String)
    (membershipClass forumHostID boardID : String) (s : σ) :
    Effect C serve env (reg s)
      (reg (Api.apply C S env tid holder membershipClass forumHostID boardID s).2)
      (.apply tid holder membershipClass forumHostID boardID) := by
  unfold Api.apply
  split
  · exact .same rfl
  rename_i holder
  split
  · exact .same rfl
  rename_i template _
  split
  · exact .same rfl
  dsimp only
  generalize hq : Api.issuanceRequestOf C env template tid holder membershipClass forumHostID
    boardID = q
  have hput : ∀ result s', S.putIssuanceRequest tid q s = (result, s') →
      Effect C serve env (reg s) (reg s')
        (.apply tid (some holder) membershipClass forumHostID boardID) := by
    intro result s' h
    rcases hL.putIssuanceRequest h with hsame | ⟨q', hnew, hid, hstate, heq⟩
    · exact .same hsame
    · rw [← hid] at hnew heq
      exact .applied tid q' hnew hstate heq
  split
  · rename_i s' h
    exact hput _ _ h
  · rename_i s' h
    rw [registry_logged hL env]
    exact hput _ _ h

/-- The intent of a decision is signed by an enrolled administrator. -/
theorem of_intent {d : IssuanceDecision} {did : String} {s : σ} {canonical : Binary}
    (h : d.intent C S tid did s = some canonical) :
    ∃ signature admin, canonicalDecision d = some canonical ∧
      decodeHex d.signatureHex = some signature ∧
      activeAdministrator ((reg s).admins tid).values did = some admin ∧
      verifyAdministratorSignature C admin canonical signature = .ok () := by
  unfold IssuanceDecision.intent at h
  split at h
  · rename_i signature canonical' hsignature hcanonical
    split at h
    · rename_i hverify
      cases h
      obtain ⟨admin, hadmin, hadminVerify⟩ := of_verifyAdministratorIntent hL hverify
      exact ⟨signature, admin, hcanonical, hsignature, hadmin, hadminVerify⟩
    · cases h
  · cases h

theorem effect_decide (tid rid : String) (capability : Option String) (d : IssuanceDecision)
    (s : σ) : Effect C serve env (reg s) (reg (Api.decide C S env tid rid capability d s).2)
      (.decide tid rid capability d) := by
  unfold Api.decide
  split
  · exact .same rfl
  rename_i did
  split
  · exact .same rfl
  rename_i hwf
  have hrid : d.requestID = rid := by
    rw [not_not] at hwf
    simp only [IssuanceDecision.wellFormed, Bool.and_eq_true, beq_iff_eq] at hwf
    exact hwf.1.1.2
  subst hrid
  split
  · exact .same rfl
  rename_i canonical hintent
  obtain ⟨signature, admin, hcanonical, hsignature, hadmin, hverify⟩ := of_intent hL hintent
  have hdecide : Effect C serve env (reg s)
    (reg (Api.decideIssuanceRequest C S env tid d.requestID did
      d.decision (hexHash C canonical) s).2) (.decide tid d.requestID (some did) d) := by
    unfold Api.decideIssuanceRequest
    split
    · exact .same rfl
    split
    · exact .same rfl
    rename_i template htemplate
    split
    · exact .same rfl
    -- what the store has done does not depend on the audit that follows
    have hput : ∀ result s', S.decideIssuanceRequest tid
        { tenantID := tid, requestID := d.requestID, approverDID := did, decision := d.decision
          signedIntentHash := hexHash C canonical, createdAt := env.now }
        template.approvalThreshold s = (result, s') →
        Effect C serve env (reg s) (reg s') (.decide tid d.requestID (some did) d) := by
      intro result s' h
      rcases hL.decideIssuanceRequest h with
        hsame | ⟨q, rid, _, state, createdAt, hq, hrid, -, -, hstate, heq⟩
      · exact .same hsame
      · exact .decided tid rid did state d q admin canonical signature _ template rfl hcanonical
          hsignature hadmin hverify hq hrid (hL.activeCredentialTemplate htemplate) rfl
          hstate heq
    split
    · rename_i s' h
      exact hput _ _ h
    · rename_i s' h
      rw [registry_auditEvent hL env]
      exact hput _ _ h
  split
  · rename_i h
    rw [h] at hdecide
    exact hdecide
  · rename_i h
    rw [h] at hdecide
    exact hdecide

theorem effect_offer (tid rid : String) (capability : Option String) (s : σ) :
    Effect C serve env (reg s) (reg (Api.offer C S env tid rid capability s).2)
      (.offer tid rid capability) := by
  unfold Api.offer
  split
  · exact .same rfl
  rename_i adminDID
  have hconsume : ∀ result s', S.consumeApprovedIssuanceRequest tid rid env.now s = (result, s') →
      Effect C serve env (reg s) (reg s') (.offer tid rid (some adminDID)) := by
    intro result s' h
    rcases hL.consumeApprovedIssuanceRequest h with hsame | ⟨q, hq, -, heq⟩
    · exact .same hsame
    · exact .offered tid rid q hq heq
  split
  · rename_i s' h
    exact hconsume _ _ h
  · rename_i request s' h
    rw [registry_logged hL env]
    exact hconsume _ _ h

/-- **Every request has an effect that its handler has checked.** -/
theorem effect (s : σ) (r : Request) :
    Effect C serve env (reg s) (reg (Api.handle C S kms env s r).2) r := by
  cases r with
  | bootstrap q => exact effect_bootstrap hL env q s
  | registerKey tid capability version n =>
    exact effect_registerKey hL kms env tid capability version n s
  | addAdministrator tid capability q => exact effect_addAdministrator hL env tid capability q s
  | proposeDelegation tid capability id signingKeyID payload =>
    exact effect_proposeDelegation hL env tid capability id signingKeyID payload s
  | approveDelegation tid id capability payload signatureHex =>
    exact effect_approveDelegation hL env tid id capability payload signatureHex s
  | activateDelegation tid id capability =>
    exact effect_activateDelegation hL env tid id capability s
  | revokeDelegation tid id capability => exact effect_revokeDelegation hL env tid id capability s
  | putTemplate tid capability version maxTTLDays active =>
    exact effect_putTemplate hL env tid capability version maxTTLDays active s
  | apply tid holder membershipClass forumHostID boardID =>
    exact effect_apply hL env tid holder membershipClass forumHostID boardID s
  | decide tid rid capability d => exact effect_decide hL env tid rid capability d s
  | offer tid rid capability => exact effect_offer hL env tid rid capability s

end Effects

/-! ### Runs -/

/-- A request together with what it finds. -/
abbrev Event := Env × Request

variable {σ : Type} (C : Crypto) (S : StoreOps σ) (kms : KMS)

def requestStep (s : σ) (e : Event) : σ := (Api.handle C S kms e.1 s e.2).2

end Ansible.Hosted
