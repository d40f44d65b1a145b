import Ansible.Issuer.RequestEffect
import Ansible.Issuer.StoreLaws

/-!
# The keys of administrators

Delegations and credentials need a threshold of administrators, each of whom holds
a root key in hardware.  An enrolment is signed by the key that it brings and by an
administrator who invites; the store sets the record under the DID that the
enrolment names, whether or not an administrator is enrolled there already.

## Main definitions

* `signatures`, `SignedBy` — the signatures in a request.
* `ByCoalition` — a request carries no signature by an administrator outside a coalition.

## Main results

* `administrator_keys` — **in both stores, runs of invited requests keep the promise.**
-/

namespace Ansible.Hosted

/-! ### Signatures in requests -/

/-- A text with each of the signatures in hexadecimal. -/
def signedBy (text : Option Binary) (hexes : List String) : List (Binary × Binary) :=
  match text with
  | none => []
  | some text => (hexes.filterMap decodeHex).map fun signature => (text, signature)

/-- The signed texts of a request, with the signatures. -/
def signatures : Request → List (Binary × Binary)
  | .bootstrap q => signedBy (canonicalBootstrap q) [q.signatureHex]
  | .addAdministrator _ _ q =>
      signedBy (canonicalEnrollment q) [q.applicantSignature, q.inviterSignatureHex]
  | .approveDelegation _ _ _ payload signatureHex => signedBy (some payload) [signatureHex]
  | .decide _ _ _ d => signedBy (canonicalDecision d) [d.signatureHex]
  | _ => []

/-- The request carries a signature by the administrator's key. -/
def SignedBy (C : Crypto) (a : Administrator) (r : Request) : Prop :=
  ∃ p ∈ signatures r, verifyAdministratorSignature C a p.1 p.2 = .ok ()

theorem mem_signedBy {text : Binary} {hexes : List String} {hex : String} {signature : Binary}
    (hmem : hex ∈ hexes) (h : decodeHex hex = some signature) :
    (text, signature) ∈ signedBy (some text) hexes :=
  List.mem_map.2 ⟨signature, List.mem_filterMap.2 ⟨hex, hmem, h⟩, rfl⟩

def rootKey (a : Administrator) : Option Binary := decodeHex a.publicKeyHex

/-- Verification reads the algorithm, the custody and the key only. -/
theorem verifyAdministratorSignature_congr {C : Crypto} {a b : Administrator}
    (halgorithm : a.signingAlgorithm = b.signingAlgorithm) (hcustody : a.custody = b.custody)
    (hkey : rootKey a = rootKey b) (message signature : Binary) :
    verifyAdministratorSignature C a message signature =
      verifyAdministratorSignature C b message signature := by
  unfold rootKey decodeHex at hkey
  unfold verifyAdministratorSignature verifyRootSignature
  rw [halgorithm, hcustody, hkey]

/-! ### Registries of runs -/

/-- What holds of the registry in every run. -/
structure Registry.Sound (c : Registry) : Prop where
  admins : ∀ tid did a, (c.admins tid).lookup did = some a → a.did = did ∧
    a.custody = "hardware" ∧ a.signingAlgorithm = "p256-sha256" ∧ (c.tenants tid).isSome
  requests : ∀ tid rid q, c.requests tid rid = some q → q.id = rid
  templates : ∀ tid x, c.templates tid x →
    ∃ t, c.tenants tid = some t ∧ x.approvalThreshold = t.threshold

theorem Registry.sound_of_empty {c : Registry} (hadmins : ∀ tid, c.admins tid = ∅)
    (hrequests : ∀ tid rid, c.requests tid rid = none) (htemplates : ∀ tid x, ¬ c.templates tid x) :
    c.Sound where
  admins tid did a h := by
    rw [hadmins] at h
    cases h
  requests tid rid q h := by
    rw [hrequests] at h
    cases h
  templates tid x h := absurd h (htemplates tid x)

theorem MemoryStore.sound_empty : ({} : MemoryStore).registry.Sound :=
  Registry.sound_of_empty (fun _ => rfl) (fun _ _ => rfl) fun _ _ h => nomatch h

theorem PostgresStore.sound_empty : ({} : PostgresStore).registry.Sound :=
  Registry.sound_of_empty (fun _ => rfl) (fun _ _ => rfl) fun _ _ h => nomatch h

variable {tid : String} {K : Binary → Bool} {n : ℤ}

theorem Registry.Sound.lookup_of_active {c : Registry} (hc : c.Sound) {did : String}
    {a : Administrator} (h : activeAdministrator (c.admins tid).values did = some a) :
    (c.admins tid).lookup did = some a := by
  obtain ⟨hmem, hdid, -⟩ := of_activeAdministrator h
  obtain ⟨k, hk⟩ := Assoc.mem_values.1 hmem
  have := (hc.admins tid k a hk).1
  rwa [← hdid, this]

variable {C : Crypto} {serve : Binary → Option Binary} {env : Env} {c c' : Registry} {r : Request}

/-- The administrators of a tenant after one of them is set. -/
theorem lookup_setAdmin (c : Registry) (tid : String) (m : Assoc String Administrator)
    (a : Administrator) (tid' did : String) :
    (((c.setAdmin tid m a).admins tid').lookup did) =
      if tid' = tid then (if did = a.did then some a else m.lookup did)
      else (c.admins tid').lookup did := by
  by_cases htid : tid' = tid
  · subst htid
    simp only [Registry.setAdmin, Function.update_self, Assoc.lookup_insert', if_true]
  · simp only [Registry.setAdmin, Function.update_of_ne htid, if_neg htid]

theorem Effect.sound (h : Effect C serve env c c' r) (hc : c.Sound) : c'.Sound := by
  cases h with
  | same h => exact h ▸ hc
  | bootstrapped q tid t' m hr hnew hthreshold hcount hpos howner hm h =>
    subst h
    refine ⟨?_, hc.requests, ?_⟩
    · intro tid' did a ha
      rw [show (Registry.admins _ tid').lookup did
        = _ from lookup_setAdmin c tid m _ tid' did] at ha
      split at ha
      · rename_i htid
        subst htid
        split at ha
        · rename_i hdid
          cases ha
          exact ⟨hdid.symm, howner.2, howner.1, by simp⟩
        · -- a tenant that does not exist has no administrators
          rcases hm with rfl | rfl
          · cases ha
          · have := (hc.admins _ did a ha).2.2.2
            rw [hnew] at this
            cases this
      · rename_i htid
        obtain ⟨hdid, hcustody, halgorithm, htenant⟩ := hc.admins tid' did a ha
        exact ⟨hdid, hcustody, halgorithm, by simpa [Function.update_of_ne htid] using htenant⟩
    · -- the tenant is new, so no template is its own
      intro tid' x hx
      obtain ⟨t, ht, hth⟩ := hc.templates tid' x hx
      have hne : tid' ≠ tid := by
        rintro rfl
        rw [hnew] at ht
        cases ht
      exact ⟨t, (Function.update_of_ne hne ..).trans ht, hth⟩
  | registered tid capability kmsKeyVersion version k hr hid hnew h =>
    subst h
    exact ⟨hc.admins, hc.requests, hc.templates⟩
  | enrolled tid inviterDID q t hr hwf ht hroom canonical asig isig inviter hsigned h =>
    subst h
    refine ⟨?_, hc.requests, hc.templates⟩
    intro tid' did a ha
    rw [lookup_setAdmin] at ha
    split at ha
    · rename_i htid
      subst htid
      split at ha
      · rename_i hdid
        cases ha
        simp only [AdministratorEnrollmentRequest.wellFormed, Bool.and_eq_true, beq_iff_eq] at hwf
        -- the form of the request asks for a P-256 key in hardware
        exact ⟨hdid.symm, hwf.1.2, hwf.1.1.2, Option.isSome_iff_exists.2 ⟨t, ht⟩⟩
      · exact hc.admins _ did a ha
    · exact hc.admins tid' did a ha
  | proposed tid capability id kid payload t d canonicalJSON nb ea hr ht hd hserve i h =>
    subst h
    exact ⟨hc.admins, hc.requests, hc.templates⟩
  | approved tid id did payload signature hex d admin hr hsig hadmin hverify hd h =>
    subst h
    exact ⟨hc.admins, hc.requests, hc.templates⟩
  | restated h =>
    refine ⟨?_, ?_, ?_⟩
    · intro tid did a ha
      rw [h.admins] at ha
      obtain ⟨hdid, hcustody, halgorithm, htenant⟩ := hc.admins tid did a ha
      exact ⟨hdid, hcustody, halgorithm, h.kept tid htenant⟩
    · rw [h.requests]
      exact hc.requests
    · intro tid x hx
      rw [h.templates] at hx
      obtain ⟨t, ht, hth⟩ := hc.templates tid x hx
      obtain ⟨t', ht'⟩ :=
        Option.isSome_iff_exists.1 (h.kept tid (Option.isSome_iff_exists.2 ⟨t, ht⟩))
      -- only the state of the tenant may differ
      obtain ⟨t₀, status, ht₀, rfl⟩ := h.tenants tid t' ht'
      obtain rfl := Option.some.inj (ht.symm.trans ht₀)
      exact ⟨_, ht', hth⟩
  | templated tid t x templates ht hx hfrom h =>
    subst h
    refine ⟨hc.admins, hc.requests, ?_⟩
    intro tid' y hy
    rcases hfrom tid' y hy with ⟨z, hz, heq⟩ | ⟨rfl, rfl⟩
    · obtain ⟨t', ht', hth⟩ := hc.templates tid' z hz
      refine ⟨t', ht', ?_⟩
      rw [heq]
      exact hth
    · exact ⟨t, ht, hx⟩
  | applied tid q hnew hstate h =>
    subst h
    refine ⟨hc.admins, ?_, hc.templates⟩
    intro tid' rid q' hq'
    rcases of_set₂ hq' with ⟨rfl, rfl, rfl⟩ | hq'
    · rfl
    · exact hc.requests tid' rid q' hq'
  | decided tid rid did state d q admin canonical signature a x hr hcan hsig hadmin hverify hq hrid
      hx ha hstate h =>
    subst h
    refine ⟨hc.admins, ?_, hc.templates⟩
    intro tid' rid' q' hq'
    rcases of_set₂ hq' with ⟨rfl, rfl, rfl⟩ | hq'
    · exact hrid.elim (fun hrid => hrid ▸ hc.requests _ _ q hq) Eq.symm
    · exact hc.requests tid' rid' q' hq'
  | offered tid rid q hq h =>
    subst h
    refine ⟨hc.admins, ?_, hc.templates⟩
    intro tid' rid' q' hq'
    rcases of_set₂ hq' with ⟨rfl, rfl, rfl⟩ | hq'
    · exact hc.requests _ _ q hq
    · exact hc.requests tid' rid' q' hq'

/-! ### The integrity of keys -/

/-- An enrolment over an enrolled administrator is that administrator's own, or brings the same
key. -/
def Invited (C : Crypto) (c : Registry) (now : Time) : Request → Prop
  | .addAdministrator tid (some inviterDID) q => q.wellFormed tid now = true →
      ∀ canonical applicantSignature inviterSignature inviter,
        EnrolmentSigned C c tid inviterDID q canonical applicantSignature inviterSignature inviter →
        ∀ a, (c.admins tid).lookup q.administratorDID = some a →
          inviterDID = q.administratorDID ∨ decodeHex q.publicKeyHex = rootKey a
  | _ => True

/-- **An invited request changes no key and no role without its holder's signature.** -/
theorem Effect.integrity (h : Effect C serve env c c' r) (hc : c.Sound) (hr : Invited C c env.now r)
    {did : String} {a : Administrator} (ha : (c.admins tid).lookup did = some a) :
    ∃ a', (c'.admins tid).lookup did = some a' ∧
      ((a'.publicKeyHex = a.publicKeyHex ∧ a'.role = a.role) ∨ SignedBy C a r) := by
  have hkept : c'.admins = c.admins → ∃ a', (c'.admins tid).lookup did = some a' ∧
      ((a'.publicKeyHex = a.publicKeyHex ∧ a'.role = a.role) ∨ SignedBy C a r) := by
    intro h
    exact ⟨a, h ▸ ha, .inl ⟨rfl, rfl⟩⟩
  cases h with
  | same h => exact hkept (by rw [h])
  | bootstrapped q tid' t' m hr' hnew hthreshold hcount hpos howner hm h =>
    -- a tenant with administrators is not bootstrapped again
    have hne : tid ≠ tid' := by
      rintro rfl
      have := (hc.admins _ did a ha).2.2.2
      rw [hnew] at this
      cases this
    refine ⟨a, ?_, .inl ⟨rfl, rfl⟩⟩
    subst h
    exact (lookup_setAdmin c tid' m _ tid did).trans ((if_neg hne).trans ha)
  | registered tid' capability kmsKeyVersion version k hr' hid hnew h => exact hkept (by rw [h])
  | enrolled tid' inviterDID q t hr' hwf ht hroom canonical asig isig inviter hsigned h =>
    subst hr' h
    by_cases hsame : tid = tid' ∧ did = q.administratorDID
    · obtain ⟨rfl, rfl⟩ := hsame
      refine ⟨{ q.applicant with tenantID := tid }, ?_, .inr ?_⟩
      · rw [lookup_setAdmin, if_pos rfl]
        exact if_pos rfl
      · rcases hr hwf canonical asig isig inviter hsigned a ha with hself | hkey
        · -- the inviter is the administrator whose record is set
          have hinviter := hc.lookup_of_active hsigned.enrolled
          rw [hself] at hinviter
          obtain rfl := Option.some.inj (ha.symm.trans hinviter)
          refine ⟨(canonical, isig), ?_, hsigned.inviterVerifies⟩
          simp only [signatures, hsigned.text]
          exact mem_signedBy (by simp) hsigned.byInviter
        · -- the applicant has signed with the key that is enrolled
          refine ⟨(canonical, asig), ?_, ?_⟩
          · simp only [signatures, hsigned.text]
            exact mem_signedBy (by simp) hsigned.byApplicant
          · obtain ⟨-, hcustody, halgorithm, -⟩ := hc.admins tid _ a ha
            simp only [AdministratorEnrollmentRequest.wellFormed, Bool.and_eq_true,
              beq_iff_eq] at hwf
            rw [← hsigned.applicantVerifies]
            exact verifyAdministratorSignature_congr (halgorithm.trans hwf.1.1.2.symm)
              (hcustody.trans hwf.1.2.symm)
              (show rootKey a = rootKey q.applicant from hkey.symm) canonical asig
    · refine ⟨a, ?_, .inl ⟨rfl, rfl⟩⟩
      rw [lookup_setAdmin]
      split
      · rename_i htid
        refine (if_neg fun hdid => hsame ⟨htid, hdid⟩).trans ?_
        rw [← htid]
        exact ha
      · exact ha
  | proposed _ _ _ _ _ _ _ _ _ _ _ _ _ _ _ h => exact hkept (by rw [h])
  | approved _ _ _ _ _ _ _ _ _ _ _ _ _ h => exact hkept (by rw [h])
  | restated h => exact hkept h.admins
  | _ =>
    rename_i h
    subst h
    exact hkept rfl

/-! ### Coalitions -/

/-- The coalition holds the administrator's root key. -/
def heldBy (K : Binary → Bool) (a : Administrator) : Bool := (rootKey a).any K

/-- The coalition holds the key of the administrator enrolled under the DID. -/
def Member (K : Binary → Bool) (c : Registry) (tid did : String) : Prop :=
  ∃ a, (c.admins tid).lookup did = some a ∧ heldBy K a = true

/-- The tenant has all its administrators, and the threshold `n`. -/
def Complete (c : Registry) (tid : String) (n : ℤ) : Prop :=
  ∃ t, c.tenants tid = some t ∧ t.threshold = n ∧ 0 < t.administratorCount ∧
    t.administratorCount ≤ (c.admins tid).keys.length

/-- Whatever administrator of the tenant has signed the request, the coalition holds the key. -/
def ByCoalition (C : Crypto) (K : Binary → Bool) (tid : String) (c : Registry) (r : Request) :
    Prop :=
  ∀ did a, (c.admins tid).lookup did = some a → SignedBy C a r → heldBy K a = true

/-- What a coalition leads to, from a registry in which the tenant is complete. -/
structure Contained (K : Binary → Bool) (tid : String) (n : ℤ) (c₀ c : Registry) : Prop where
  sound : c.Sound
  complete : Complete c tid n
  /-- No key has come into the hands of the coalition. -/
  members : ∀ did, Member K c tid did → Member K c₀ tid did
  /-- Approvals by others are from before, and of the same document. -/
  approvals : ∀ i d did, c.delegations tid i = some d → did ∈ d.approvals →
    Member K c₀ tid did ∨ ∃ d₀, c₀.delegations tid i = some d₀ ∧
      d₀.sequence = d.sequence ∧ d₀.canonicalJSON = d.canonicalJSON ∧ did ∈ d₀.approvals
  /-- Decisions by others are from before. -/
  decisions : ∀ rid did x, (c.decisions tid rid).lookup did = some x →
    Member K c₀ tid did ∨ (c₀.decisions tid rid).lookup did = some x

theorem Contained.refl (hc : c.Sound) (hn : Complete c tid n) : Contained K tid n c c where
  sound := hc
  complete := hn
  members _ h := h
  approvals _ d _ hd hdid := .inr ⟨d, hd, rfl, rfl, hdid⟩
  decisions _ _ _ h := .inr h

theorem Complete.congr (hn : Complete c tid n) (htenants : c'.tenants tid = c.tenants tid)
    (hadmins : c'.admins tid = c.admins tid) : Complete c' tid n := by
  obtain ⟨t, ht, hth, hpos, hlen⟩ := hn
  exact ⟨t, htenants.trans ht, hth, hpos, hadmins ▸ hlen⟩

theorem Effect.complete (h : Effect C serve env c c' r) (hn : Complete c tid n) :
    Complete c' tid n := by
  cases h with
  | same h => exact h ▸ hn
  | bootstrapped q tid' t' m hr hnew hthreshold hcount hbounds howner hm h =>
    have hne : tid ≠ tid' := by
      intro htid
      obtain ⟨t, ht, -⟩ := hn
      rw [htid, hnew] at ht
      cases ht
    subst h
    exact hn.congr (Function.update_of_ne hne ..) (Function.update_of_ne hne ..)
  | enrolled tid' inviterDID q t' hr hwf ht' hroom canonical asig isig inviter hsigned h =>
    subst h
    by_cases htid : tid = tid'
    · subst htid
      obtain ⟨t, ht, hth, hpos, hlen⟩ := hn
      refine ⟨t, ht, hth, hpos, ?_⟩
      simp only [Registry.setAdmin, Function.update_self]
      exact hlen.trans (Int.ofNat_le.2 (Assoc.length_keys_insert_le ..))
    · exact hn.congr rfl (Function.update_of_ne htid ..)
  | restated h =>
    obtain ⟨t, ht, hth, hpos, hlen⟩ := hn
    obtain ⟨t', ht'⟩ := Option.isSome_iff_exists.1
      (h.kept tid (Option.isSome_iff_exists.2 ⟨t, ht⟩))
    obtain ⟨t₀, status, ht₀, rfl⟩ := h.tenants tid t' ht'
    obtain rfl := Option.some.inj (ht.symm.trans ht₀)
    exact ⟨_, ht', hth, hpos, h.admins ▸ hlen⟩
  | _ =>
    rename_i h
    subst h
    exact hn.congr rfl rfl

/-- **Within the coalition's requests no key changes hands.** -/
theorem Effect.members (h : Effect C serve env c c' r) (hc : c.Sound) (hn : Complete c tid n)
    (hr : Invited C c env.now r) (hK : ByCoalition C K tid c r) {did : String}
    (hdid : Member K c' tid did) : Member K c tid did := by
  have hkept : c'.admins tid = c.admins tid → Member K c tid did := by
    intro h
    rwa [Member, ← h]
  cases h with
  | same h => exact hkept (by rw [h])
  | bootstrapped q tid' t' m hr' hnew hthreshold hcount hpos howner hm h =>
    have hne : tid ≠ tid' := by
      intro htid
      obtain ⟨t, ht, -⟩ := hn
      rw [htid, hnew] at ht
      cases ht
    subst h
    exact hkept (Function.update_of_ne hne ..)
  | enrolled tid' inviterDID q t hr' hwf ht hroom canonical asig isig inviter hsigned h =>
    subst hr' h
    obtain ⟨b, hb, hheld⟩ := hdid
    rw [lookup_setAdmin] at hb
    split at hb
    · rename_i htid
      subst htid
      split at hb
      · rename_i hsame
        cases hb
        -- the tenant has all its administrators, so that the DID is among them
        obtain ⟨t', ht', -, hcount, hlen⟩ := hn
        obtain rfl := Option.some.inj (ht.symm.trans ht')
        have hmem : q.administratorDID ∈ c.admins tid :=
          hroom.resolve_right fun h => h.elim (Int.not_le.2 hcount) (Int.not_lt.2 hlen)
        obtain ⟨a, ha⟩ := Option.isSome_iff_exists.1 (AList.lookup_isSome.2 hmem)
        refine ⟨a, by rw [hsame]; exact ha, ?_⟩
        rcases hr hwf canonical asig isig inviter hsigned a ha with hself | hkey
        · have hinviter := hc.lookup_of_active hsigned.enrolled
          rw [hself] at hinviter
          obtain rfl := Option.some.inj (ha.symm.trans hinviter)
          refine hK _ _ ha ⟨(canonical, isig), ?_, hsigned.inviterVerifies⟩
          simp only [signatures, hsigned.text]
          exact mem_signedBy (by simp) hsigned.byInviter
        · rw [heldBy, ← hkey]
          exact hheld
      · exact ⟨b, hb, hheld⟩
    · exact ⟨b, hb, hheld⟩
  | restated h => exact hkept (by rw [h.admins])
  | _ =>
    rename_i h
    subst h
    exact hkept rfl

/-- An administrator that is found has signed what verifies. -/
theorem ByCoalition.member {did : String} (hK : ByCoalition C K tid c r) (hc : c.Sound)
    {admin : Administrator} {text signature : Binary}
    (hadmin : activeAdministrator (c.admins tid).values did = some admin)
    (hmem : (text, signature) ∈ signatures r)
    (hverify : verifyAdministratorSignature C admin text signature = .ok ()) : Member K c tid did :=
  have h := hc.lookup_of_active hadmin
  ⟨admin, h, hK did admin h ⟨_, hmem, hverify⟩⟩

/-- **What a request of the coalition leads to.** -/
theorem Contained.step {c₀ : Registry} (hcon : Contained K tid n c₀ c)
    (h : Effect C serve env c c' r) (hr : Invited C c env.now r) (hK : ByCoalition C K tid c r) :
    Contained K tid n c₀ c' where
  sound := h.sound hcon.sound
  complete := h.complete hcon.complete
  members did hdid := hcon.members did (h.members hcon.sound hcon.complete hr hK hdid)
  approvals := by
    intro i d' did hd' hdid
    obtain ⟨signature, hsig⟩ := Option.isSome_iff_exists.1 (AList.lookup_isSome.2 hdid)
    rcases h.approval hd' hsig with ⟨d, hd, hseq, hdoc, hsig⟩ |
      ⟨admin, payload, signatureHex, rfl, hhex, hadmin, hverify⟩
    · have hdid : did ∈ d.approvals := AList.lookup_isSome.1 (by rw [hsig]; rfl)
      rcases hcon.approvals i d did hd hdid with hin | ⟨d₀, hd₀, hseq₀, hdoc₀, hmem⟩
      · exact .inl hin
      · exact .inr ⟨d₀, hd₀, hseq₀.trans hseq, hdoc₀.trans hdoc, hmem⟩
    · refine .inl (hcon.members did (hK.member hcon.sound hadmin ?_ hverify))
      exact mem_signedBy (by simp) hhex
  decisions := by
    intro rid did x hx
    rcases h.decision hx with
      hx | ⟨admin, d, canonical, signature, rfl, htext, hhex, hadmin, hverify⟩
    · exact hcon.decisions rid did x hx
    · refine .inl (hcon.members did (hK.member hcon.sound hadmin ?_ hverify))
      simp only [signatures, htext]
      exact mem_signedBy (by simp) hhex

/-- The number of administrators whose keys the coalition holds. -/
def heldCount (K : Binary → Bool) (c : Registry) (tid : String) : ℕ :=
  (c.admins tid).values.countP (heldBy K)

/-- **The counting argument**: among enough administrators one is no member. -/
theorem exists_outsider {l : List String} (hl : l.Nodup) (h : heldCount K c tid < l.length) :
    ∃ did ∈ l, ¬ Member K c tid did := by
  obtain ⟨did, hdid, hno⟩ := Assoc.exists_mem_of_countP_lt hl h
  refine ⟨did, hdid, ?_⟩
  intro ⟨a, ha, hheld⟩
  rw [hno a ha] at hheld
  cases hheld

/-- The coalition holds the keys of fewer administrators than the threshold, and the tenant has
all its administrators. -/
def Outnumbered (K : Binary → Bool) (c : Registry) (tid : String) : Prop :=
  ∃ n : ℤ, Complete c tid n ∧ heldCount K c tid < n

/-! ### Runs -/

section Runs

variable {σ : Type} (C : Crypto) (S : StoreOps σ) (kms : KMS) (reg : σ → Registry)

def InvitedRun (s : σ) (es : List Event) : Prop :=
  Along (requestStep C S kms) (fun s e => Invited C (reg s) e.1.now e.2) s es

def CoalitionRun (K : Binary → Bool) (tid : String) (s : σ) (es : List Event) : Prop :=
  Along (requestStep C S kms) (fun s e => ByCoalition C K tid (reg s) e.2) s es

/-- **What a run promises about keys and coalitions.** -/
structure KeysKept (s₀ : σ) (es : List Event) : Prop where
  /-- A key or a role is changed by a request that the administrator's current key has signed. -/
  integrity : ∀ pre e post tid did a, es = pre ++ e :: post →
    ((reg (exec (requestStep C S kms) s₀ pre)).admins tid).lookup did = some a →
    ∃ a', ((reg (exec (requestStep C S kms) s₀ (pre ++ [e]))).admins tid).lookup did = some a' ∧
      ((a'.publicKeyHex = a.publicKeyHex ∧ a'.role = a.role) ∨ SignedBy C a e.2)
  /-- A delegation that is activated has been approved by an administrator outside the
  coalition, before the coalition went on alone. -/
  no_activation : ∀ K pre mid post tid id capability env,
    es = pre ++ mid ++ (env, .activateDelegation tid id capability) :: post →
    Outnumbered K (reg (exec (requestStep C S kms) s₀ pre)) tid →
    CoalitionRun C S kms reg K tid (exec (requestStep C S kms) s₀ pre) mid →
    (S.activateDelegation tid id env.now (exec (requestStep C S kms) s₀ (pre ++ mid))).1 = .ok () →
    ∃ d d₀ did, (reg (exec (requestStep C S kms) s₀ (pre ++ mid))).delegations tid id = some d ∧
      (reg (exec (requestStep C S kms) s₀ pre)).delegations tid id = some d₀ ∧
      d₀.sequence = d.sequence ∧ d₀.canonicalJSON = d.canonicalJSON ∧ did ∈ d₀.approvals ∧
      ¬ Member K (reg (exec (requestStep C S kms) s₀ pre)) tid did
  /-- So it is with a request that becomes approved. -/
  no_approval : ∀ K pre mid e post tid rid q', es = pre ++ mid ++ e :: post →
    Outnumbered K (reg (exec (requestStep C S kms) s₀ pre)) tid →
    CoalitionRun C S kms reg K tid (exec (requestStep C S kms) s₀ pre) (mid ++ [e]) →
    (∀ q, (reg (exec (requestStep C S kms) s₀ (pre ++ mid))).requests tid rid = some q →
      q.state ≠ "approved") →
    (reg (exec (requestStep C S kms) s₀ (pre ++ mid ++ [e]))).requests tid rid = some q' →
    q'.state = "approved" →
    ∃ did x, ((reg (exec (requestStep C S kms) s₀ pre)).decisions tid rid).lookup did = some x ∧
      x.decision = "approve" ∧ ¬ Member K (reg (exec (requestStep C S kms) s₀ pre)) tid did

variable {C S kms reg} {s₀ s : σ} {es mid : List Event} (hL : Laws S reg serve)

include hL

theorem sound_exec (hs : (reg s₀).Sound) (es : List Event) :
    (reg (exec (requestStep C S kms) s₀ es)).Sound :=
  exec_invariant (I := fun s => (reg s).Sound)
    (fun s e hs => (effect hL kms e.1 s e.2).sound hs) hs es

/-- **What the coalition leads to in a run.** -/
theorem contained_exec (hs : (reg s).Sound) (hn : Complete (reg s) tid n)
    (hinv : InvitedRun C S kms reg s mid) (hK : CoalitionRun C S kms reg K tid s mid) :
    Contained K tid n (reg s) (reg (exec (requestStep C S kms) s mid)) := by
  have hboth : Along (requestStep C S kms) (fun s e => Invited C (reg s) e.1.now e.2 ∧
      ByCoalition C K tid (reg s) e.2) s mid := by
    clear hs hn
    induction mid generalizing s with
    | nil => trivial
    | cons e mid ih => exact ⟨⟨hinv.1, hK.1⟩, ih hinv.2 hK.2⟩
  refine Along.invariant (I := fun t => Contained K tid n (reg s) (reg t)) ?_ hboth
    (Contained.refl hs hn)
  intro t e hcon he
  exact hcon.step (effect hL kms e.1 t e.2) he.1 he.2

/-- **In invited runs of a lawful store the promise is kept.** -/
theorem keysKept (hs : (reg s₀).Sound) (hinv : InvitedRun C S kms reg s₀ es) :
    KeysKept C S kms reg s₀ es where
  integrity := by
    intro pre e post tid did a hes ha
    subst hes
    have he := (along_append.1 hinv).2.1
    rw [exec_append]
    exact (effect hL kms e.1 _ e.2).integrity (sound_exec hL hs pre) he ha
  no_activation := by
    intro K pre mid post tid id capability env hes ⟨n, hn, hfew⟩ hK hok
    subst hes
    rw [InvitedRun, List.append_assoc] at hinv
    have hmid := (along_append.1 (along_append.1 hinv).2).1
    have hcon := contained_exec hL (sound_exec hL hs pre) hn hmid hK
    rw [exec_append] at hok ⊢
    obtain ⟨t, d, ht, hd, hthreshold⟩ := (hL.activateDelegation rfl).2 hok
    obtain ⟨t', ht', hth, -, -⟩ := hcon.complete
    obtain rfl := Option.some.inj (ht.symm.trans ht')
    -- more have approved than the coalition has members, so one of them is an outsider
    have hlen : heldCount K (reg (exec (requestStep C S kms) s₀ pre)) tid <
        d.approvals.keys.length := by omega
    obtain ⟨did, hdid, hno⟩ := exists_outsider d.approvals.keys_nodup hlen
    rcases hcon.approvals id d did hd (AList.mem_keys.2 hdid) with
      hmember | ⟨d₀, hd₀, hseq, hdoc, hmem⟩
    · exact absurd hmember hno
    · exact ⟨d, d₀, did, hd, hd₀, hseq, hdoc, hmem, hno⟩
  no_approval := by
    intro K pre mid e post tid rid q' hes ⟨n, hn, hfew⟩ hK hbefore hq' hstate'
    subst hes
    rw [show pre ++ mid ++ e :: post = pre ++ ((mid ++ [e]) ++ post) by simp, InvitedRun] at hinv
    have hmid := (along_append.1 (along_append.1 hinv).2).1
    have hcon := contained_exec hL (sound_exec hL hs pre) hn (along_append.1 hmid).1
      (along_append.1 hK).1
    have hcon' := contained_exec hL (sound_exec hL hs pre) hn hmid hK
    rw [List.append_assoc, exec_append] at hq'
    rw [exec_append] at hbefore
    rw [exec_append] at hq' hcon'
    rcases (effect hL kms e.1 _ e.2).approved_request hq' hstate' with
      ⟨q, hq, hstate⟩ | ⟨x, asked, q, hx, hq, hrid, hor⟩
    · exact absurd hstate (hbefore q hq)
    · have hid : rid = asked := hrid.elim id fun h => h.trans (hcon.sound.requests _ _ q hq)
      subst hid
      have happroving := hor.resolve_left (hbefore q hq)
      obtain ⟨t, ht, hxt⟩ := hcon.sound.templates tid x hx
      obtain ⟨t', ht', hth, -, -⟩ := hcon.complete
      obtain rfl := Option.some.inj (ht.symm.trans ht')
      rw [approving, ← Assoc.length_keysWhere] at happroving
      have hlen := Int.ofNat_lt.1 (hfew.trans_le ((hxt.trans hth).symm.trans_le happroving))
      obtain ⟨did, hdid, hno⟩ := exists_outsider (Assoc.nodup_keysWhere ..) hlen
      obtain ⟨y, hy, hdecision⟩ := Assoc.mem_keysWhere.1 hdid
      rcases hcon'.decisions rid did y hy with hmember | hold
      · exact absurd hmember hno
      · exact ⟨did, y, hold, beq_iff_eq.1 hdecision, hno⟩

end Runs

/-! ### Both stores -/

/-- **The keys of administrators**: in runs of either store in which an enrolment over an
enrolled administrator is that administrator's own or brings the same key, keys and roles change
by their holders only, and a coalition below the threshold neither activates a delegation nor
approves a request. -/
theorem administrator_keys (C : Crypto) (kms : KMS) (server : Server) (es : List Event) :
    (InvitedRun C MemoryStore.ops kms MemoryStore.registry {} es →
      KeysKept C MemoryStore.ops kms MemoryStore.registry {} es) ∧
    (InvitedRun C (PostgresStore.ops server) kms PostgresStore.registry {} es →
      KeysKept C (PostgresStore.ops server) kms PostgresStore.registry {} es) :=
  ⟨keysKept MemoryStore.laws MemoryStore.sound_empty,
    keysKept (PostgresStore.laws server) PostgresStore.sound_empty⟩

/-- **In every run** enrolled keys are hardware keys of existing tenants, and templates have the
threshold of their tenant. -/
theorem registry_sound (C : Crypto) (kms : KMS) (server : Server) (es : List Event) :
    (MemoryStore.registry (exec (requestStep C MemoryStore.ops kms) {} es)).Sound ∧
    (PostgresStore.registry (exec (requestStep C (PostgresStore.ops server) kms) {} es)).Sound :=
  ⟨sound_exec MemoryStore.laws MemoryStore.sound_empty es,
    sound_exec (PostgresStore.laws server) PostgresStore.sound_empty es⟩

/-- The owner invites an administrator whose root key is `n`. -/
def toyEnrolment (did : String) (n : UInt8) : AdministratorEnrollmentRequest :=
  { type := "IssuerAdministratorEnrollment", version := 1, tenantID := "t"
    administratorDID := did, role := "administrator", signingAlgorithm := "p256-sha256"
    publicKeyHex := toyKeyHex n, custody := "hardware", issuedAt := ⟨1, 0⟩
    applicantSignature := toySignature n, inviterSignatureHex := toySignature 1 }

/-- The tenant `t` is opened. -/
def toyOpening : Event := ({ now := 1, newID := "t", auditID := "1" }, .bootstrap (toyBootstrap 2))

/-- The owner enrols the administrator `b` with the root key `n`. -/
def toyInvitation (n : UInt8) : Event :=
  ({ now := 1, newID := "", auditID := toString n },
    .addAdministrator "t" (some "a") (toyEnrolment "b" n))

/-- A tenant of two administrators, whose delegation both of them approve and one activates. -/
def toyDelegated : List Event :=
  [toyOpening, toyInvitation 2, (toyEnv "k", .registerKey "t" (some "a") "v" 1),
    (toyEnv "p", .proposeDelegation "t" (some "a") "d" "k" (toyDocument 2 "did:key:z1")),
    (toyEnv "q", .approveDelegation "t" "d" (some "a") (toyDocument 2 "did:key:z1")
      (toySignature 1)),
    (toyEnv "s", .approveDelegation "t" "d" (some "b") (toyDocument 2 "did:key:z1")
      (toySignature 2)),
    (toyEnv "r", .activateDelegation "t" "d" (some "a"))]

/-- The store in memory after requests. -/
abbrev toyMemory (es : List Event) : MemoryStore :=
  exec (requestStep Crypto.tiny MemoryStore.ops toyKMS) {} es

/-- The store over PostgreSQL after requests. -/
abbrev toyPostgres (es : List Event) : PostgresStore :=
  exec (requestStep Crypto.tiny (PostgresStore.ops ⟨some, true⟩) toyKMS) {} es

/-- The state of the delegation and its approvals. -/
def toyStanding (c : Registry) : Option (String × List String) :=
  (c.delegations "t" "d").map fun d => (d.state, d.approvals.keys)

theorem administrator_keys_toy :
    (KeysKept Crypto.tiny MemoryStore.ops toyKMS MemoryStore.registry {} toyDelegated ∧
      toyStanding (toyMemory toyDelegated).registry = some ("active", ["b", "a"])) ∧
    KeysKept Crypto.tiny (PostgresStore.ops ⟨some, true⟩) toyKMS PostgresStore.registry {}
        toyDelegated ∧
      toyStanding (toyPostgres toyDelegated).registry = some ("active", ["b", "a"]) := by
  have h := administrator_keys Crypto.tiny toyKMS ⟨some, true⟩ toyDelegated
  refine ⟨⟨h.1 ⟨trivial, ?_, trivial, trivial, trivial, trivial, trivial, trivial⟩,
    by decide +kernel⟩, h.2 ⟨trivial, ?_, trivial, trivial, trivial, trivial, trivial, trivial⟩,
    by decide +kernel⟩
  · intro _ canonical applicantSignature inviterSignature inviter hsigned a ha
    have hnew : ((toyMemory [toyOpening]).registry.admins "t").lookup "b" = none := by
      decide +kernel
    rw [toyMemory, exec_cons, exec_nil] at hnew
    exact absurd (hnew.symm.trans ha) (Option.some_ne_none a).symm
  · intro _ canonical applicantSignature inviterSignature inviter hsigned a ha
    have hnew : ((toyPostgres [toyOpening]).registry.admins "t").lookup "b" = none := by
      decide +kernel
    rw [toyPostgres, exec_cons, exec_nil] at hnew
    exact absurd (hnew.symm.trans ha) (Option.some_ne_none a).symm

instance {C : Crypto} {a : Administrator} {r : Request} : Decidable (SignedBy C a r) :=
  inferInstanceAs (Decidable (∃ p ∈ signatures r, _))

/-- **One administrator sets the key of another**, who has signed nothing: the tenant has all its
administrators when the owner enrols the second one again. -/
theorem keys_overwritten : ¬ KeysKept Crypto.tiny MemoryStore.ops toyKMS
    MemoryStore.registry {} ([toyOpening, toyInvitation 2] ++ [toyInvitation 3]) := by
  intro h
  have hold : ((toyMemory [toyOpening, toyInvitation 2]).registry.admins "t").lookup "b" =
      some { (toyEnrolment "b" 2).applicant with tenantID := "t" } := by decide +kernel
  have hnew : ((toyMemory ([toyOpening, toyInvitation 2] ++ [toyInvitation 3])).registry.admins
      "t").lookup "b" = some { (toyEnrolment "b" 3).applicant with tenantID := "t" } := by
    decide +kernel
  rw [toyMemory] at hold hnew
  obtain ⟨a', ha', hkept⟩ :=
    h.integrity [toyOpening, toyInvitation 2] (toyInvitation 3) [] "t" "b" _ rfl hold
  obtain rfl := Option.some.inj (hnew.symm.trans ha')
  exact absurd hkept (by decide +kernel)

end Ansible.Hosted
