import Ansible.Issuer.RequestEffect
import Ansible.Issuer.StoreLaws

/-!
# The evidence for a delegation

The manifest of an issuer serves the active delegation: the document, its hash and
the administrators' signatures.  Whoever resolves it recomputes the hash, verifies
the signatures over the document and compares the key of the credentials with the
one that the document names.

## Main results

* `delegation_evidence` — **in faithful runs of both stores, what is served is borne out.**
-/

namespace Ansible.Hosted

/-- The key that signs credentials, and the delegation under which it does. -/
def activeSigner {σ : Type} (S : StoreOps σ) (tenantID : String) (now : Time) (s : σ) :
    Except StoreError (SigningKey × Delegation) := do
  let delegation ← S.activeDelegation tenantID now s
  let key ← S.signingKey tenantID delegation.signingKeyID s
  return (key, delegation)

section Runs

variable {σ : Type} (C : Crypto) (S : StoreOps σ) (kms : KMS) (reg : σ → Registry)
  (serve : Binary → Option Binary) (names : String → SigningKey → Bool)

/-- During the requests, the signature verified over the text as that of an administrator who
was enrolled then. -/
def VerifiedOver (s₀ : σ) (es : List Event) (tid did : String) (text signature : Binary) : Prop :=
  ∃ pre e post admin, es = pre ++ e :: post ∧
    activeAdministrator ((reg (exec (requestStep C S kms) s₀ pre)).admins tid).values did =
      some admin ∧
    verifyAdministratorSignature C admin text signature = .ok ()

/-- **The evidence for a delegation bears it out**: the hash is that of its document, the
approvals are signatures over the document, and the document names the signing key. -/
structure Evident (s₀ : σ) (es : List Event) (tid : String) (d : Delegation) : Prop where
  hash : d.payloadHash = hexHash C d.canonicalJSON
  approvals : ∀ did signature, d.approvals.lookup did = some signature →
    VerifiedOver C S kms reg s₀ es tid did d.canonicalJSON signature
  delegate : ∃ payload, decodeDelegation d.canonicalJSON = some payload ∧ ∀ key,
    (reg (exec (requestStep C S kms) s₀ es)).signingKeys tid d.signingKeyID = some key →
      names payload.delegateKey key = true

/-- **A proposal's document is kept as it is and names the signing key, an approval presents the
document, and the id that is drawn for a key is not in use.** -/
def Faithful (c : Registry) (env : Env) : Request → Prop
  | .proposeDelegation tid _ _ signingKeyID payload =>
      ∀ p text, decodeDelegation payload = some p → serve payload = some text →
        text = payload ∧ ∀ key, c.signingKeys tid signingKeyID = some key →
          names p.delegateKey key = true
  | .registerKey tid _ _ _ => ∀ i d, c.delegations tid i = some d → d.signingKeyID ≠ env.newID
  | .approveDelegation tid id (some did) payload signatureHex =>
      ∀ d signature admin, c.delegations tid id = some d → decodeHex signatureHex = some signature →
        activeAdministrator (c.admins tid).values did = some admin →
        verifyAdministratorSignature C admin payload signature = .ok () → payload = d.canonicalJSON
  | _ => True

def FaithfulRun (s : σ) (es : List Event) : Prop :=
  Along (requestStep C S kms) (fun s e => Faithful C serve names (reg s) e.1 e.2) s es

/-- **What the issuer serves is borne out**: whatever delegation is active at the end of the run,
and whatever key signs credentials under it. -/
structure Verifiable (s₀ : σ) (es : List Event) : Prop where
  hash : ∀ tid now d, S.activeDelegation tid now (exec (requestStep C S kms) s₀ es) = .ok d →
    d.payloadHash = hexHash C d.canonicalJSON
  approvals : ∀ tid now d, S.activeDelegation tid now (exec (requestStep C S kms) s₀ es) = .ok d →
    ∀ did signature, d.approvals.lookup did = some signature →
      VerifiedOver C S kms reg s₀ es tid did d.canonicalJSON signature
  signer : ∀ tid now key d, activeSigner S tid now (exec (requestStep C S kms) s₀ es) =
    .ok (key, d) → ∃ payload, decodeDelegation d.canonicalJSON = some payload ∧
      names payload.delegateKey key = true

variable {C S kms reg serve names} {s₀ : σ} {es : List Event} {e : Event} {tid did : String}

theorem VerifiedOver.append {text signature : Binary}
    (h : VerifiedOver C S kms reg s₀ es tid did text signature) :
    VerifiedOver C S kms reg s₀ (es ++ [e]) tid did text signature := by
  obtain ⟨pre, e', post, admin, rfl, hadmin, hverify⟩ := h
  exact ⟨pre, e', post ++ [e], admin, by simp, hadmin, hverify⟩

/-- The delegations of the tenants are borne out. -/
def AllEvident (C : Crypto) (S : StoreOps σ) (kms : KMS) (reg : σ → Registry)
    (names : String → SigningKey → Bool) (s₀ : σ) (es : List Event) : Prop :=
  ∀ tid i d, (reg (exec (requestStep C S kms) s₀ es)).delegations tid i = some d →
    Evident C S kms reg names s₀ es tid d

variable (hL : Laws S reg serve)

include hL

/-- **A faithful request keeps evidence.** -/
theorem AllEvident.step (hall : AllEvident C S kms reg names s₀ es)
    (he : Faithful C serve names (reg (exec (requestStep C S kms) s₀ es)) e.1 e.2) :
    AllEvident C S kms reg names s₀ (es ++ [e]) := by
  intro tid i d' hd'
  rw [exec_append] at hd'
  have heff := effect (C := C) hL kms e.1 (exec (requestStep C S kms) s₀ es) e.2
  rcases heff.delegation hd' with ⟨d, hd, hsame⟩ |
    ⟨capability, id, kid, payload, t, d, text, nb, ea, hr, hvalid, hserve, rfl⟩
  · have hev := hall tid i d hd
    have hdoc : d'.canonicalJSON = d.canonicalJSON := by rw [hsame]
    have hkid : d'.signingKeyID = d.signingKeyID := by rw [hsame]
    refine ⟨?_, ?_, ?_⟩
    · rw [hdoc, ← hev.hash, hsame]
    · intro did signature hsig
      rcases heff.approval hd' hsig with ⟨d₁, hd₁, -, -, hsig₁⟩ |
        ⟨admin, payload, hex, hr, hhex, hadmin, hverify⟩
      · obtain rfl := Option.some.inj (hd.symm.trans hd₁)
        exact hdoc ▸ (hev.approvals did signature hsig₁).append
      · rw [hr] at he
        obtain rfl := he d signature admin hd hhex hadmin hverify
        exact ⟨es, e, [], admin, rfl, hadmin, hdoc ▸ hverify⟩
    · obtain ⟨p, hp, hnames⟩ := hev.delegate
      refine ⟨p, hdoc ▸ hp, ?_⟩
      intro key hkey
      rw [exec_append, hkid] at hkey
      rcases heff.signingKey hkey with hkey | ⟨_, _, _, hr, hid⟩
      · exact hnames key hkey
      · -- a key that is registered now is named by no delegation
        rw [hr] at he
        exact absurd hid (he i d hd)
  · obtain ⟨p, hp, hjson, hhash, -⟩ := Governance.validateDelegation_eq_ok hvalid
    rw [hr] at he
    obtain ⟨rfl, hnames⟩ := he p text hp hserve
    refine ⟨hhash, ?_, p, hp, ?_⟩
    · intro did signature hsig
      cases hsig
    · intro key hkey
      rw [exec_append] at hkey
      rcases heff.signingKey hkey with hkey | ⟨_, _, _, hr', -⟩
      · exact hnames key hkey
      · exact nomatch hr.symm.trans hr'

theorem allEvident (h₀ : ∀ tid i, (reg s₀).delegations tid i = none) :
    ∀ es, FaithfulRun C S kms reg serve names s₀ es → AllEvident C S kms reg names s₀ es := by
  intro es
  induction es using List.reverseRecOn with
  | nil =>
    intro _ tid i d hd
    exact nomatch (h₀ tid i).symm.trans hd
  | append_singleton es e ih =>
    intro hrun
    obtain ⟨hes, he, -⟩ := along_append.1 hrun
    exact (ih hes).step hL he

/-- **In faithful runs of a lawful store, what is served is borne out.** -/
theorem verifiable (h₀ : ∀ tid i, (reg s₀).delegations tid i = none)
    (hrun : FaithfulRun C S kms reg serve names s₀ es) :
    Verifiable C S kms reg names s₀ es where
  hash := by
    intro tid now d hd
    obtain ⟨i, hi, -⟩ := hL.activeDelegation hd
    exact (allEvident hL h₀ es hrun tid i d hi).hash
  approvals := by
    intro tid now d hd
    obtain ⟨i, hi, -⟩ := hL.activeDelegation hd
    exact (allEvident hL h₀ es hrun tid i d hi).approvals
  signer := by
    intro tid now key d h
    unfold activeSigner at h
    cases hd : S.activeDelegation tid now (exec (requestStep C S kms) s₀ es) with
    | error err =>
      rw [hd] at h
      cases h
    | ok d' =>
      rw [hd] at h
      cases hkey : S.signingKey tid d'.signingKeyID (exec (requestStep C S kms) s₀ es) with
      | error err =>
        change (do let key ← S.signingKey tid d'.signingKeyID _; return (key, d')) = _ at h
        rw [hkey] at h
        cases h
      | ok key' =>
        change (do let key ← S.signingKey tid d'.signingKeyID _; return (key, d')) = _ at h
        rw [hkey] at h
        cases h
        obtain ⟨i, hi, -⟩ := hL.activeDelegation hd
        obtain ⟨p, hp, hnames⟩ := (allEvident hL h₀ es hrun tid i _ hi).delegate
        exact ⟨p, hp, hnames _ (hL.signingKey hkey)⟩

end Runs

/-- **The evidence for delegations**: in runs of either store in which the document of every
proposal is kept as it is and names the signing key, and every approval presents the document,
what is served is borne out. -/
theorem delegation_evidence (C : Crypto) (kms : KMS) (names : String → SigningKey → Bool)
    (server : Server) (es : List Event) :
    (FaithfulRun C MemoryStore.ops kms MemoryStore.registry some names {} es →
      Verifiable C MemoryStore.ops kms MemoryStore.registry names {} es) ∧
    (FaithfulRun C (PostgresStore.ops server) kms PostgresStore.registry server.jsonbText names {}
        es →
      Verifiable C (PostgresStore.ops server) kms PostgresStore.registry names {} es) :=
  ⟨verifiable MemoryStore.laws fun _ _ => rfl,
    verifiable (PostgresStore.laws server) fun _ _ => rfl⟩

/-! ### Worked examples -/

/-- The PEM stands for the key. -/
def toyNames (delegateKey : String) (key : SigningKey) : Bool := delegateKey == key.publicKeyPEM

/-- A tenant of one administrator registers the key of the service, and proposes, approves and
activates a delegation under the document. -/
def toyDelegating (delegateKey : String) : List Event :=
  [(toyEnv "t", .bootstrap (toyBootstrap 1)), (toyEnv "k", .registerKey "t" (some "a") "v" 1),
    (toyEnv "p", .proposeDelegation "t" (some "a") "d" "k" (toyDocument 1 delegateKey)),
    (toyEnv "q", .approveDelegation "t" "d" (some "a") (toyDocument 1 delegateKey)
      (toySignature 1)),
    (toyEnv "r", .activateDelegation "t" "d" (some "a"))]

/-- The worked example is faithful when the service has the key of the document. -/
theorem faithful_toyDelegating {σ : Type} {S : StoreOps σ} {reg : σ → Registry}
    {serve : Binary → Option Binary} {s₀ : σ}
    (hserve : serve (toyDocument 1 "did:key:z1") = some (toyDocument 1 "did:key:z1"))
    (hnone : ∀ i, (reg (exec (requestStep Crypto.tiny S toyKMS) s₀
      ((toyDelegating "did:key:z1").take 1))).delegations "t" i = none)
    (hkey : ((reg (exec (requestStep Crypto.tiny S toyKMS) s₀
      ((toyDelegating "did:key:z1").take 2))).signingKeys "t" "k").map (·.publicKeyPEM) =
        some "did:key:z1")
    (hdoc : ((reg (exec (requestStep Crypto.tiny S toyKMS) s₀
      ((toyDelegating "did:key:z1").take 3))).delegations "t" "d").map (·.canonicalJSON) =
        some (toyDocument 1 "did:key:z1")) :
    FaithfulRun Crypto.tiny S toyKMS reg serve toyNames s₀ (toyDelegating "did:key:z1") := by
  simp only [toyDelegating, List.take_succ_cons, List.take_zero, exec_cons, exec_nil]
    at hnone hkey hdoc
  simp only [FaithfulRun, toyDelegating, along_cons, along_nil]
  refine ⟨trivial, ?_, ?_, ?_, trivial, trivial⟩
  · intro i d hd
    exact absurd ((hnone i).symm.trans hd) (Option.some_ne_none d).symm
  · intro p text hp htext
    have hdelegate : (decodeDelegation (toyDocument 1 "did:key:z1")).map (·.delegateKey) =
        some "did:key:z1" := by decide +kernel
    rw [hp] at hdelegate
    refine ⟨Option.some.inj (htext.symm.trans hserve), ?_⟩
    intro key hk
    rw [hk] at hkey
    replace hdelegate : p.delegateKey = "did:key:z1" := Option.some.inj hdelegate
    replace hkey : key.publicKeyPEM = "did:key:z1" := Option.some.inj hkey
    rw [toyNames, hdelegate, hkey, beq_self_eq_true]
  · intro d signature admin hd _ _ _
    rw [hd] at hdoc
    exact (Option.some.inj hdoc).symm

theorem MemoryStore.lookup_delegations_of_keys {s : MemoryStore} {tid : String}
    (h : (s.delegations tid).keys = []) (i : String) : s.registry.delegations tid i = none := by
  refine AList.lookup_eq_none.2 ?_
  intro hi
  rw [AList.mem_keys, h] at hi
  cases hi

theorem PostgresStore.delegationRow_of_keys {s : PostgresStore} {tid : String}
    (h : s.delegations.keys = []) (i : String) : s.registry.delegations tid i = none := by
  refine Option.filter_eq_none_iff.2 ?_
  intro d hd
  have hi := Assoc.mem_keys_iff.2 ⟨d, hd⟩
  rw [h] at hi
  cases hi

theorem delegation_evidence_toy :
    Verifiable Crypto.tiny MemoryStore.ops toyKMS MemoryStore.registry toyNames {}
      (toyDelegating "did:key:z1") ∧
    Verifiable Crypto.tiny (PostgresStore.ops ⟨some, true⟩)
      toyKMS PostgresStore.registry toyNames {}
      (toyDelegating "did:key:z1") := by
  have h := delegation_evidence Crypto.tiny toyKMS toyNames ⟨some, true⟩
    (toyDelegating "did:key:z1")
  refine ⟨h.1 (faithful_toyDelegating rfl ?_ ?_ ?_), h.2 (faithful_toyDelegating rfl ?_ ?_ ?_)⟩
  · exact MemoryStore.lookup_delegations_of_keys (by decide +kernel)
  · decide +kernel
  · decide +kernel
  · exact PostgresStore.delegationRow_of_keys (by decide +kernel)
  · decide +kernel
  · decide +kernel

/-- **Credentials are signed by a key that the document does not name**: the proposal's signing
key is outside what the administrators sign. -/
theorem other_key_signs : ¬ Verifiable Crypto.tiny MemoryStore.ops toyKMS MemoryStore.registry
    toyNames {} (toyDelegating "did:key:z2") := by
  intro h
  have hserved : ((activeSigner MemoryStore.ops "t" 2 (exec (requestStep Crypto.tiny
      MemoryStore.ops toyKMS) {} (toyDelegating "did:key:z2"))).toOption.map fun p =>
        (p.1.publicKeyPEM, (decodeDelegation p.2.canonicalJSON).map (·.delegateKey))) =
      some ("did:key:z1", some "did:key:z2") := by decide +kernel
  have hsigner := h.signer "t" 2
  generalize activeSigner MemoryStore.ops "t" 2 (exec (requestStep Crypto.tiny
    MemoryStore.ops toyKMS) {} (toyDelegating "did:key:z2")) = served at hserved hsigner
  cases served with
  | error e => cases hserved
  | ok p =>
    obtain ⟨hpem, hdelegate⟩ := Prod.mk.inj (Option.some.inj hserved)
    obtain ⟨payload, hpayload, hnames⟩ := hsigner p.1 p.2 rfl
    rw [hpayload] at hdelegate
    replace hdelegate : payload.delegateKey = "did:key:z2" := Option.some.inj hdelegate
    rw [toyNames, hdelegate, hpem] at hnames
    exact absurd hnames (by decide)

end Ansible.Hosted
