import Ansible.Relay.AnchorAuthority
import Ansible.Relay.AnchorLinear
import Ansible.Relay.IdentityRun
import Ansible.Relay.OpsIdentity

/-!
# The keys of ingestion and of the anchors

Ops are verified by the key that the identity cache holds, while the key of an identity is
that of its active anchor.  Registrations and rotations write the one, the anchor store
writes the other, and neither follows the other.

## Main results

* `key_agreement` — **in every run of safe calls ops are verified by the active anchors' keys.**
-/

namespace Ansible

open AnchorStore

def IdentityAnchor.key (a : IdentityAnchor) : String × String :=
  (a.identityKeyAlgorithm, a.identityKey)

/-- Every key by which ops of a DID may be verified is that of its active anchor. -/
def KeysAgree (s : Relay) : Prop :=
  ∀ did a, s.activeAnchor did = some a → ∀ k, IdentityBinding s did k → k = a.key

variable {s s' t : Relay} {E : Env} {now : Time} {params : Json} {V : VpEnv} {row : IdentityAnchor}

theorem Relay.SameCore.activeAnchor (h : s.SameCore s') (did : String) :
    s'.activeAnchor did = s.activeAnchor did := by
  rw [Relay.activeAnchor, h.anchors, ← Relay.activeAnchor]

theorem KeysAgree.of_same (h : KeysAgree s) (hcore : s.SameCore s') (hverified : s.SameVerified s')
    : KeysAgree s' := by
  intro did a ha k hk
  rw [hcore.activeAnchor] at ha
  exact h did a ha k (hverified.binding hk)

/-- Lookups and nonces keep the agreement: what a lookup caches was a binding, or is the key of
the active anchor. -/
theorem keysAgree_stable : Stable KeysAgree where
  nonces h hsame := h.of_same hsame.core hsame.verified
  account did h := h.of_same (DidAccountCache.get_core did _) (DidAccountCache.get_verified did _)
  accountByHandle handle h := h.of_same (DidAccountCache.getByHandle_core handle _)
    (DidAccountCache.getByHandle_verified handle _)
  identity now did h := by
    intro did' a ha k hk
    rw [(IdentityCache.get_core now did _).1.activeAnchor] at ha
    rcases IdentityCache.binding_of_get hk with hk | ⟨b, hb, rfl⟩
    · exact h did' a ha k hk
    · rw [Option.some.inj (hb.symm.trans ha)]
      rfl

/-! ### Safe calls -/

/-- An admitted registration that writes the identity cache, from its slot. -/
def Installs (E : Env) (now : Time) (reg : IdentityV2.Admitted) (t : Relay) :
    IdentityV2.Slot → Prop
  | .refresh _ => True
  | .fresh => (putAccount E now reg t).1 = .ok
  | _ => False

/-- A call that gives a DID no second key: what it activates names the key that ops are
verified by, if any, and what it registers or rotates to is the key of the active anchor, if
any. -/
def AgreementSafe (V : VpEnv) (s : Relay) : IdentityAction → Prop
  | .store (.submit now anchor opts) => ∀ row, (submit V.toEnv now anchor opts s).1 = .ok row →
      row.state = .active → ∀ k, IdentityBinding s row.did k → k = row.key
  | .store (.promoteDue now) => ∀ r ∈ promotable now s, ∀ k, IdentityBinding s r.did k → k = r.key
  | .anchor now params => ∀ reg slot t, Registers V.toEnv now params s reg slot t →
      Installs V.toEnv now reg t slot → ∀ a, s.activeAnchor reg.did = some a →
        (reg.algorithm, reg.publicKeyHex) = a.key
  | .rotateKey now params => ∀ rot current t, Rotates V.toEnv now params s rot current t →
      (∃ rows, DidAccountCache.rotateRows rot.did rot.expectedVersion rot.publicKeyHex
        rot.algorithm t = .ok rows) → ∀ a, s.activeAnchor rot.did = some a →
        (rot.algorithm, rot.publicKeyHex) = a.key
  | _ => True

theorem Registers.core {reg : IdentityV2.Admitted} {slot : IdentityV2.Slot}
    (h : Registers E now params s reg slot t) : s.SameCore t := by
  have ht : t = (IdentityV2.slotOf reg (IdentityV2.admission E now params s).2).2 := by
    rw [h.slot_eq]
  rw [ht, IdentityV2.slotOf_eq]
  exact (IdentityV2.admission_same E now params s).core.trans
    ((DidAccountCache.get_core _ _).trans (DidAccountCache.getByHandle_core _ _))

theorem Rotates.state_eq {rot : IdentityV2.Rotation} {current : AccountEntry}
    (h : Rotates E now params s rot current t) : t = (DidAccountCache.get rot.did s).2 := by
  rw [h.current_eq]

/-! ### Every safe call keeps the agreement -/

theorem KeysAgree.putIdentity {reg : IdentityV2.Admitted} (h : KeysAgree t)
    (hkey : ∀ a, t.activeAnchor reg.did = some a → (reg.algorithm, reg.publicKeyHex) = a.key) :
    KeysAgree (IdentityV2.putIdentity E now reg t).2 := by
  unfold IdentityV2.putIdentity
  intro did a ha k hk
  rw [(IdentityCache.put_core ..).1.activeAnchor] at ha
  rcases IdentityCache.binding_of_put hk with hk | ⟨rfl, rfl⟩
  · exact h did a ha k hk
  · exact hkey a ha

theorem KeysAgree.anchor (h : KeysAgree s) (hsafe : AgreementSafe V s (.anchor now params)) :
    KeysAgree (IdentityV2.anchor V.toEnv now params s).2 := by
  refine keysAgree_stable.anchor h (fun reg e t hreg ht => ht.putIdentity fun a ha => ?_)
    (fun reg t _ ht => ht.of_same (DidAccountCache.put_core ..) (DidAccountCache.put_verified ..))
    fun reg t u hreg hput hu => hu.putIdentity fun a ha => ?_
  · rw [hreg.core.activeAnchor] at ha
    exact hsafe reg _ t hreg trivial a ha
  · have hcore : t.SameCore u := by
      have hc : t.SameCore (putAccount V.toEnv now reg t).2 := DidAccountCache.put_core ..
      rwa [hput] at hc
    rw [hcore.activeAnchor, hreg.core.activeAnchor] at ha
    exact hsafe reg _ t hreg (show _ = _ by rw [hput]) a ha

theorem KeysAgree.rotateKey (h : KeysAgree s) (hsafe : AgreementSafe V s (.rotateKey now params)) :
    KeysAgree (IdentityV2.rotateKey V.toEnv now params s).2 := by
  refine keysAgree_stable.rotateKey h fun rot current t hrot ht did a ha k hk => ?_
  rw [(DidAccountCache.rotateKey_core ..).activeAnchor] at ha
  rcases DidAccountCache.identityBinding_of_rotateKey hk with hk | ⟨hrows, rfl, rfl⟩
  · exact ht did a ha k hk
  · rw [hrot.state_eq, (DidAccountCache.get_core ..).activeAnchor] at ha
    exact hsafe rot current t hrot hrows a ha

/-- A row that becomes active with the key that ops of its DID are verified by. -/
theorem KeysAgree.activates (h : KeysAgree s)
    (hact : Activates s.identityAnchors s'.identityAnchors row) (hverified : s.SameVerified s')
    (hkey : ∀ k, IdentityBinding s row.did k → k = row.key) : KeysAgree s' := by
  intro did a ha k hk
  have hk := hverified.binding hk
  by_cases hd : did = row.did
  · subst hd
    rw [Relay.activeAnchor, hact.self] at ha
    rw [← Option.some.inj ha]
    exact hkey k hk
  · rw [Relay.activeAnchor, hact.other did hd] at ha
    exact h did a ha k hk

theorem KeysAgree.submit {anchor : Json} {opts : SubmitOpts} (h : KeysAgree s)
    (hsafe : AgreementSafe V s (.store (.submit now anchor opts))) :
    KeysAgree (AnchorStore.submit V.toEnv now anchor opts s).2 := by
  have hverified := submit_verified V.toEnv now anchor opts s
  rcases submit_activeAnchor V.toEnv now anchor opts s with hsame | ⟨row, hok, hst, hact⟩
  · intro did a ha k hk
    rw [hsame] at ha
    exact h did a ha k (hverified.binding hk)
  · exact h.activates hact hverified (hsafe row hok hst)

/-- The row that a promotion activates has the content of the row that was read. -/
theorem key_of_activates {r : IdentityAnchor} (hr : Stored r s) (hdid : row.did = r.did)
    (hcid : row.anchorCid = r.anchorCid)
    (hrow : row ∈ (AnchorStore.promoteOne E now r s).identityAnchors.rows) : row.key = r.key := by
  obtain ⟨y, hy, hyr⟩ := hr
  obtain ⟨z, hz, hzr⟩ := (promoteOne_evolved E now r s).2.old row hrow
  have hzy : z = y := s.identityAnchors.eq_of_key hz hy
    (((content_did hzr).symm.trans hdid).trans (content_did hyr).symm)
    (((content_anchorCid hzr).symm.trans hcid).trans (content_anchorCid hyr).symm)
  have hcontent : row.content = r.content := by rw [hzr, hzy, hyr]
  exact (congrArg IdentityAnchor.key hcontent :)

/-- A run of promotions, each with the key that ops of its DID are verified by. -/
theorem KeysAgree.promotions {l : List IdentityAnchor} (h : KeysAgree s)
    (hmem : ∀ r ∈ l, Stored r s) (hkey : ∀ r ∈ l, ∀ k, IdentityBinding s r.did k → k = r.key) :
    KeysAgree (l.foldl (fun s r => AnchorStore.promoteOne E now r s) s) := by
  induction l generalizing s with
  | nil => exact h
  | cons r l ih =>
    have hverified := promoteOne_verified E now r s
    refine ih ?_ (fun x hx => ?_) fun x hx k hk =>
      hkey x (List.mem_cons_of_mem _ hx) k (hverified.binding hk)
    · rcases promoteOne_activeAnchor E now r s with hsame | ⟨row, hdid, hcid, hact⟩
      · intro did a ha k hk
        rw [hsame] at ha
        exact h did a ha k (hverified.binding hk)
      · refine h.activates hact hverified fun k hk => ?_
        rw [key_of_activates (hmem r List.mem_cons_self) hdid hcid
          (AnchorTable.activeAnchor_eq_some.1 hact.self).1]
        exact hkey r List.mem_cons_self k (hdid ▸ hk)
    · obtain ⟨y, hy, hyx⟩ := hmem x (List.mem_cons_of_mem _ hx)
      obtain ⟨z, hz, hzy⟩ := (promoteOne_evolved E now r s).2.kept y hy
      exact ⟨z, hz, hzy.trans hyx⟩

theorem KeysAgree.mono (h : KeysAgree s) (hanchors : s'.identityAnchors = s.identityAnchors)
    (hbinding : ∀ {did k}, IdentityBinding s' did k → IdentityBinding s did k) : KeysAgree s' := by
  intro did a ha k hk
  rw [Relay.activeAnchor, hanchors] at ha
  exact h did a ha k (hbinding hk)

/-- **Every safe call keeps the agreement.** -/
theorem KeysAgree.step (s : Relay) (act : IdentityAction) (h : KeysAgree s)
    (hsafe : AgreementSafe V s act) : KeysAgree (identityStep V s act) := by
  cases act with
  | register now fresh params => exact keysAgree_stable.register h
  | anchor now params => exact h.anchor hsafe
  | rotateKey now params => exact h.rotateKey hsafe
  | store act =>
    cases act with
    | submit now anchor opts => exact h.submit hsafe
    | promoteDue now =>
      exact h.promotions (fun r hr => ⟨r, (mem_promotable.1 hr).1, rfl⟩) hsafe
    | veto did cid sig =>
      intro did' a ha k hk
      rw [identityStep, anchorStep, veto_activeAnchor] at ha
      exact h did' a ha k ((veto_verified V.toPlatform did cid sig s).binding hk)
  | present now limited params =>
    exact keysAgree_stable.present h fun did e t tier _ ht =>
      ht.of_same (DidAccountCache.put_core ..) (DidAccountCache.put_verified ..)
  | migrate params =>
    rcases MigrationStore.submit_leaves V.toPlatform params s with
      ⟨hs, -⟩ | ⟨row, t, -, -, -, hs⟩
    · rw [identityStep, hs]
      exact h
    · rw [identityStep, hs]
      refine h.mono rfl fun hk => ?_
      cases hk with
      | cached he => exact .cached (Ets.of_delete (Ets.of_delete he).2).2
      | stored hv hd => exact .stored hv hd
  | account did => exact keysAgree_stable.account did h
  | accountByHandle handle => exact keysAgree_stable.accountByHandle handle h
  | identity now did => exact keysAgree_stable.identity now did h
  | sweepExpired now =>
    refine h.mono rfl fun hk => ?_
    cases hk with
    | cached he => exact .cached (Option.filter_eq_some_iff.1 he).1
    | stored hv hd => exact .stored hv hd
  | restart =>
    refine h.mono rfl fun hk => ?_
    cases hk with
    | cached he => cases he
    | stored hv hd => exact .stored hv hd

/-! ### Agreement along a run -/

/-- The ingest path verifies ops of a DID by the key of its active anchor. -/
structure KeyAgreement (E : Env) (s : Relay) : Prop where
  key : ∀ did a now k, s.activeAnchor did = some a → OpsController.ingestKey now did s = some k →
    k = a.key
  /-- Of two keys, the one that the active anchor names decides. -/
  ingest : ∀ did a now message sig, s.activeAnchor did = some a →
    ((OpsController.checkIdentity E now did message sig s).1 = .ok () ↔
      (∃ e, (IdentityCache.get now did s).1 = some e ∧ now < e.expiresAt) ∧
        IdentityWritePolicy.allowed E.toConfig (.str a.identityKeyAlgorithm) = true ∧
        SigVerifier.verifyIdentity E.toPlatform a.identityKeyAlgorithm a.identityKey message sig
          = true)

theorem KeysAgree.keyAgreement (h : KeysAgree s) : KeyAgreement E s := by
  have hkey : ∀ {did a now e}, s.activeAnchor did = some a →
      (IdentityCache.get now did s).1 = some e → (e.signingAlgorithm, e.publicKeyHex) = a.key := by
    intro did a now e ha he
    rcases IdentityCache.binding_of_get_eq_some he with hk | ⟨b, hb, hk⟩
    · exact h did a ha _ hk
    · rw [hk, Option.some.inj (hb.symm.trans ha)]
      rfl
  constructor
  · intro did a now k ha hk
    obtain ⟨e, he, rfl⟩ := Option.map_eq_some_iff.1 hk
    exact hkey ha he
  · intro did a now message sig ha
    rw [OpsController.checkIdentity_eq_ok]
    constructor
    · rintro ⟨e, he, hexp, halg, hsig⟩
      obtain ⟨h1, h2⟩ := Prod.mk.inj (hkey ha he)
      rw [h1] at halg hsig
      rw [h2] at hsig
      exact ⟨⟨e, he, hexp⟩, halg, hsig⟩
    · rintro ⟨⟨e, he, hexp⟩, halg, hsig⟩
      obtain ⟨h1, h2⟩ := Prod.mk.inj (hkey ha he)
      rw [← h1] at halg hsig
      rw [← h2] at hsig
      exact ⟨e, he, hexp, halg, hsig⟩

/-- **In every run of safe calls ops are verified by the active anchors' keys.**  The invariant is
that whatever key the records of a DID bind to it is the one of its active anchor, if it has one.
-/
theorem key_agreement (V : VpEnv) {s₀ : Relay} (h₀ : s₀.identityAnchors.rows = [])
    (acts : List IdentityAction) (hsafe : Along (identityStep V) (AgreementSafe V) s₀ acts) :
    KeyAgreement V.toEnv (exec (identityStep V) s₀ acts) := by
  have hstart : KeysAgree s₀ := by
    intro did a ha
    have hmem := (AnchorTable.activeAnchor_eq_some.1 ha).1
    rw [h₀] at hmem
    cases hmem
  exact (hsafe.invariant (fun s act h hact => h.step s act hact) hstart).keyAgreement

/-! ### Runs of the toy platform -/

open Reputation (toyVpEnv toyDid)

/-- Alice registers her first key. -/
def registeredRun : List IdentityAction :=
  [.register 0 "nonce" (toyRegister 1 "alice"),
    .anchor 0 (toyRegistration 1 toyDid "alice.elix.cool" "nonce")]

/-- She submits an anchor of the same key. -/
def anchoredRun : List IdentityAction := registeredRun ++ [.store (.submit 0 toyGenesis {})]

/-- She rotates the anchor to another key. -/
def rotatedRun : List IdentityAction := anchoredRun ++ [.store (.submit 0 toyRotation {})]

def afterRun (acts : List IdentityAction) : Relay := exec (identityStep toyVpEnv) Relay.empty acts

/-- The key of the active anchor of Alice, and the one that her ops are verified by. -/
def keysOf (s : Relay) : Option (String × String) × Option (String × String) :=
  ((s.activeAnchor toyDid).map IdentityAnchor.key, OpsController.ingestKey 0 toyDid s)

/-- Every key that is bound to a DID after the registration is Alice's first key. -/
theorem registered_bindings :
    (identityStep toyVpEnv Relay.empty
        (.register 0 "nonce" (toyRegister 1 "alice"))).identityAnchors.rows.length = 0 ∧
      (∀ e ∈ (afterRun registeredRun).verifiedDidCache toyDid,
        (e.signingAlgorithm, e.publicKeyHex) = ("p256-sha256", toyKeyHex 1)) ∧
      ∀ v ∈ (afterRun registeredRun).verifiedDids.rows,
        (v.signingAlgorithm, v.publicKeyHex) = ("p256-sha256", toyKeyHex 1) := by
  decide +kernel

theorem toyGenesis_row {opts : SubmitOpts} (h : Accepted E toyGenesis opts s row) :
    row.did = toyDid ∧ row.key = ("p256-sha256", toyKeyHex 1) := by
  have hdid := h.did
  have hkey := h.identityKey
  have halg := h.algorithm
  exact ⟨(Json.str.inj hdid).symm, Prod.ext (Json.str.inj halg).symm (Json.str.inj hkey).symm⟩

theorem anchored_safe : Along (identityStep toyVpEnv) (AgreementSafe toyVpEnv) Relay.empty
    anchoredRun := by
  obtain ⟨hempty, hcached, hstored⟩ := registered_bindings
  refine along_append.2 ⟨⟨trivial, fun reg slot t _ _ a ha => ?_, trivial⟩, ?_, trivial⟩
  · -- there is no anchor yet
    have hmem := (AnchorTable.activeAnchor_eq_some.1 ha).1
    rw [List.eq_nil_of_length_eq_zero hempty] at hmem
    cases hmem
  · intro row hok _ k hk
    rcases submit_cases toyVpEnv.toEnv 0 toyGenesis {} (afterRun registeredRun) with
      ⟨e, he, -⟩ | ⟨row', hok', -, -, hacc, -⟩
    · rw [afterRun] at he
      rw [he] at hok
      cases hok
    · rw [afterRun] at hok'
      obtain rfl := Except.ok.inj (hok'.symm.trans hok)
      obtain ⟨hdid, hkey⟩ := toyGenesis_row hacc
      have hk : IdentityBinding (afterRun registeredRun) toyDid k := hdid ▸ hk
      rw [hkey]
      generalize afterRun registeredRun = s at hk hcached hstored
      cases hk with
      | cached he => exact hcached _ he
      | stored hv _ => exact hstored _ hv

theorem key_agreement_anchored :
    KeyAgreement toyVpEnv.toEnv (exec (identityStep toyVpEnv) Relay.empty anchoredRun) :=
  key_agreement toyVpEnv rfl anchoredRun anchored_safe

theorem rotated_keys : keysOf (afterRun rotatedRun)
    = (some ("p256-sha256", toyKeyHex 3), some ("p256-sha256", toyKeyHex 1)) := by decide +kernel

/-- After an accepted rotation of the anchor ops are verified by the old key. -/
theorem keys_not_agree : ¬ KeyAgreement toyVpEnv.toEnv (afterRun rotatedRun) := by
  intro h
  obtain ⟨hactive, hingest⟩ := Prod.mk.inj rotated_keys
  obtain ⟨a, ha, hkey⟩ := Option.map_eq_some_iff.1 hactive
  have heq := (h.key toyDid a 0 _ ha hingest).trans hkey
  exact absurd heq (by decide +kernel)

end Ansible
