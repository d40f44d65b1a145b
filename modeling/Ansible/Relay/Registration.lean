import Ansible.Relay.IdentityAgreement

/-!
# Who may register a `did:elix`

A `did:elix` commits to a key.  Whatever key the relay binds to it, in an account, in a
verified identity or in an anchor, should be that key or one that a chain of anchors or of
rotations leads to from it.  There are two rails into the relay, and one of them does not
check a legacy identifier against the key.

## Main definitions

* `IsElix`, `Commits` — the identifiers, and the keys that they commit to.
* `Certified` — every key that a state binds to an identifier is one of a given kind.

## Main results

* `bound_keys_authorised` — **in every run of safe calls every bound key is authorised.**
-/

namespace Ansible

open AnchorStore

/-! ### Identifiers and the keys they commit to -/

/-- An identifier of the method `did:elix`, legacy or v1. -/
def IsElix (did : String) : Prop := (afterPrefix (bytes "did:elix:") (bytes did)).isSome = true

/-- A key, with its algorithm, that the derivation of the identifier commits to. -/
inductive Commits (P : Platform) (did : String) : String × String → Prop
  | legacy (key handle custody algorithm : String)
      (h : DidElix.derive P key handle custody algorithm = did) : Commits P did (algorithm, key)
  | v1 (commitment : Json) (key algorithm : String)
      (h : DidElix.matchesV1 P did commitment = true)
      (hkey : commitment.fetch "genesis_key" = .str key) : Commits P did (algorithm, key)

/-- An accepted genesis of a `did:elix` names a key that the identifier commits to. -/
theorem commits_of_genesis {P : Platform} {anchor : Json} {row : IdentityAnchor}
    (hrow : IsRowOf anchor row) (helix : IsElix row.did)
    (h : genesisDidSelfCertifies P anchor row.did = true) : Commits P row.did row.key := by
  unfold IsElix at helix
  unfold genesisDidSelfCertifies at h
  rw [if_pos helix] at h
  split at h
  · simp only [Bool.and_eq_true, hrow.identityKey, Json.eqv_str_right] at h
    exact .v1 _ row.identityKey row.identityKeyAlgorithm h.2 h.1.2
  · rw [hrow.identityKey, hrow.handle, hrow.custody, hrow.algorithm] at h
    exact .legacy _ _ _ _ (beq_iff_eq.1 h)

variable {did : String} {s₀ : Relay} {acts : List IdentityAction}

/-- An admitted registration with a commitment names the key of the commitment. -/
theorem commits_of_binding {P : Platform} {key algorithm : String} {commitment : Json}
    (h : IdentityV2.validateRegistrationBinding P did key commitment = .ok ())
    (hc : commitment ≠ .null) : Commits P did (algorithm, key) := by
  unfold IdentityV2.validateRegistrationBinding at h
  split at h
  · exact absurd rfl hc
  · simp only [bind_eq_ok, IdentityV2.check_eq_ok, Json.eqv_str_right] at h
    obtain ⟨_, -, _, hkey, hmatches⟩ := h
    exact .v1 _ key algorithm hmatches hkey
  · cases h

/-! ### Authority -/

/-- The keys that the run `acts` from `s₀` authorises for an identifier.

A key is authorised if the identifier commits to it; if the account rotates to it, under a
signature of the authorised key before it and one of its own; or if an accepted anchor names it
and continues the active anchor of an authorised key, that is under a signature of this key or of
a device that this anchor enrols, or below version 4 under a recovery code. -/
inductive Authorised (V : VpEnv) (s₀ : Relay) : List IdentityAction → String →
    String × String → Prop
  | derived {acts did k} (h : Commits V.toPlatform did k) : Authorised V s₀ acts did k
  | rotated {pre now params post rot current t}
      (h : Rotates V.toEnv now params (exec (identityStep V) s₀ pre) rot current t)
      (hcurrent : Authorised V s₀ pre rot.did (current.signingAlgorithm, current.publicKeyHex)) :
      Authorised V s₀ (pre ++ .rotateKey now params :: post) rot.did
        (rot.algorithm, rot.publicKeyHex)
  | chained {pre now anchor opts post row p}
      (hok : (submit V.toEnv now anchor opts (exec (identityStep V) s₀ pre)).1 = .ok row)
      (hactive : (exec (identityStep V) s₀ pre).activeAnchor row.did = some p)
      (hcontinues : Continues V.toPlatform p anchor opts row)
      (hp : Authorised V s₀ pre row.did p.key) :
      Authorised V s₀ (pre ++ .store (.submit now anchor opts) :: post) row.did row.key

theorem Authorised.append {V : VpEnv} {k : String × String} (h : Authorised V s₀ acts did k)
    (more : List IdentityAction) : Authorised V s₀ (acts ++ more) did k := by
  cases h with
  | derived h => exact .derived h
  | rotated h hcurrent =>
    rw [List.append_assoc, List.cons_append]
    exact .rotated h hcurrent
  | chained hok hactive hcontinues hp =>
    rw [List.append_assoc, List.cons_append]
    exact .chained hok hactive hcontinues hp

/-- Every key that the state binds to a `did:elix` is one of `A`. -/
structure Certified (A : String → String × String → Prop) (s : Relay) : Prop where
  anchor : ∀ x ∈ s.identityAnchors.rows, IsElix x.did → A x.did x.key
  identity : ∀ did, IsElix did → ∀ k, IdentityBinding s did k → A did k
  account : ∀ did, IsElix did → ∀ k, AccountBinding s did k → A did k

section Certified

variable {A B : String → String × String → Prop} {s s' : Relay}

theorem Certified.imp (h : Certified A s) (hAB : ∀ did k, A did k → B did k) : Certified B s where
  anchor x hx he := hAB _ _ (h.anchor x hx he)
  identity did he k hk := hAB _ _ (h.identity did he k hk)
  account did he k hk := hAB _ _ (h.account did he k hk)

variable {E : Env} {now : Time}

theorem Certified.active (h : Certified A s) {a : IdentityAnchor} (ha : s.activeAnchor did = some a)
    (he : IsElix did) : A did a.key := by
  obtain ⟨hmem, rfl, -⟩ := AnchorTable.activeAnchor_eq_some.1 ha
  exact h.anchor a hmem he

theorem Certified.answer (h : Certified A s) {e : AccountEntry}
    (he : (DidAccountCache.get did s).1 = some e) (helix : IsElix did) :
    A did (e.signingAlgorithm, e.publicKeyHex) := by
  rcases DidAccountCache.binding_of_get_eq_some he with hk | ⟨a, ha, hk⟩
  · exact h.account did helix _ hk
  · rw [hk]
    exact h.active ha helix

/-- A state of the same anchors whose bindings are of `A` or keys of active anchors. -/
theorem Certified.of_core (h : Certified A s) (hcore : s.SameCore s')
    (hidentity : ∀ did k, IdentityBinding s' did k → IsElix did →
      A did k ∨ ∃ a, s.activeAnchor did = some a ∧ k = (a.identityKeyAlgorithm, a.identityKey))
    (haccount : ∀ did k, AccountBinding s' did k → IsElix did →
      A did k ∨ ∃ a, s.activeAnchor did = some a ∧ k = (a.identityKeyAlgorithm, a.identityKey)) :
    Certified A s' where
  anchor x hx he := h.anchor x (hcore.anchors ▸ hx) he
  identity did he k hk := by
    rcases hidentity did k hk he with hk | ⟨a, ha, rfl⟩
    · exact hk
    · exact h.active ha he
  account did he k hk := by
    rcases haccount did k hk he with hk | ⟨a, ha, rfl⟩
    · exact hk
    · exact h.active ha he

theorem certified_stable (A : String → String × String → Prop) : Stable (Certified A) where
  nonces h hsame := h.of_core hsame.core
    (fun did k hk he => .inl (h.identity did he k (hsame.verified.binding hk)))
    fun did k hk he => .inl (h.account did he k (hsame.accounts.binding hk))
  account did h := h.of_core (DidAccountCache.get_core did _)
    (fun did' k hk he =>
      .inl (h.identity did' he k ((DidAccountCache.get_verified did _).binding hk)))
    fun did' k hk he => (DidAccountCache.binding_of_get hk).imp_left (h.account did' he k)
  accountByHandle handle h := h.of_core (DidAccountCache.getByHandle_core handle _)
    (fun did' k hk he =>
      .inl (h.identity did' he k ((DidAccountCache.getByHandle_verified handle _).binding hk)))
    fun did' k hk he => (DidAccountCache.binding_of_getByHandle hk).imp_left (h.account did' he k)
  identity now did h := h.of_core (IdentityCache.get_core now did _).1
    (fun did' k hk he => (IdentityCache.binding_of_get hk).imp_left (h.identity did' he k))
    fun did' k hk he =>
      .inl (h.account did' he k ((IdentityCache.get_core now did _).2.binding hk))

/-- A write of the account cache under an authorised key. -/
theorem Certified.putAccount {key handle : String} {opts : DidAccountCache.PutOpts}
    (h : Certified A s) (hkey : IsElix did → A did (opts.signingAlgorithm, key)) :
    Certified A (DidAccountCache.put E now did key handle opts s).2 := by
  refine h.of_core (DidAccountCache.put_core ..) (fun did' k hk he =>
    .inl (h.identity did' he k ((DidAccountCache.put_verified ..).binding hk)))
    fun did' k hk he => .inl ?_
  rcases DidAccountCache.binding_of_put hk with hk | ⟨rfl, rfl⟩
  · exact h.account did' he k hk
  · exact hkey he

theorem Certified.putIdentity {reg : IdentityV2.Admitted} (h : Certified A s)
    (hkey : IsElix reg.did → A reg.did (reg.algorithm, reg.publicKeyHex)) :
    Certified A (IdentityV2.putIdentity E now reg s).2 := by
  unfold IdentityV2.putIdentity
  refine h.of_core (IdentityCache.put_core ..).1 (fun did' k hk he => .inl ?_)
    fun did' k hk he => .inl (h.account did' he k ((IdentityCache.put_core ..).2.binding hk))
  rcases IdentityCache.binding_of_put hk with hk | ⟨rfl, rfl⟩
  · exact h.identity did' he k hk
  · exact hkey he

/-- A table whose rows are of `A`, and the account of a row refreshed. -/
theorem Certified.sync {row : IdentityAnchor} {t : AnchorTable} (h : Certified A s)
    (hrows : ∀ x ∈ t.rows, IsElix x.did → A x.did x.key) (hrow : IsElix row.did → A row.did row.key)
    :
    Certified A (syncCache E now row { s with identityAnchors := t }) := by
  have ht : Certified A { s with identityAnchors := t } :=
    ⟨hrows, fun did he k hk => h.identity did he k (by
      cases hk with
      | cached hc => exact .cached hc
      | stored hv hd => exact .stored hv hd), fun did he k hk => h.account did he k (by
      cases hk with
      | cached hc => exact .cached hc
      | stored hv hd => exact .stored hv hd)⟩
  rw [syncCache_eq]
  exact ((certified_stable A).account row.did ht).putAccount hrow

end Certified

/-! ### What a call authorises -/

/-- The keys that a call is about to bind are of `A`: that of an accepted anchor, of a new
registration, of a rotation. -/
def Covers (V : VpEnv) (A : String → String × String → Prop) (s : Relay) : IdentityAction → Prop
  | .store (.submit now anchor opts) => ∀ row, (submit V.toEnv now anchor opts s).1 = .ok row →
      IsElix row.did → A row.did row.key
  | .anchor now params => ∀ reg t, Registers V.toEnv now params s reg .fresh t → IsElix reg.did →
      A reg.did (reg.algorithm, reg.publicKeyHex)
  | .rotateKey now params => ∀ rot current t, Rotates V.toEnv now params s rot current t →
      IsElix rot.did → A rot.did (rot.algorithm, rot.publicKeyHex)
  | _ => True

section Step

variable {A : String → String × String → Prop} {s : Relay} {V : VpEnv}

theorem Certified.submit {now : Time} {anchor : Json} {opts : SubmitOpts} (h : Certified A s)
    (hcovers : Covers V A s (.store (.submit now anchor opts))) :
    Certified A (AnchorStore.submit V.toEnv now anchor opts s).2 := by
  have hwritten := submit_written V.toEnv now anchor opts s
  have hcases := submit_cases V.toEnv now anchor opts s
  rw [Covers] at hcovers
  generalize AnchorStore.submit V.toEnv now anchor opts s = r at hwritten hcases hcovers
  -- the rows afterwards are the accepted one and those from before, up to their states
  have hrows : ∀ row t, r.1 = .ok row → r.2.identityAnchors = t →
      ∀ x ∈ t.rows, IsElix x.did → A x.did x.key := by
    rintro row t hok rfl x hx he
    rcases hcases with ⟨e, herr, -⟩ | ⟨row', hok', -, -, -, hent⟩
    · rw [herr] at hok
      cases hok
    · obtain rfl := Except.ok.inj (hok'.symm.trans hok)
      rcases entered_rows hent hx with rfl | ⟨y, hy, hxy⟩
      · exact hcovers _ hok he
      · have hkey : x.key = y.key := (congrArg IdentityAnchor.key hxy :)
        rw [hkey, content_did hxy]
        exact h.anchor y hy (content_did hxy ▸ he)
  cases hwritten with
  | refused e => exact h
  | pending row t _ =>
    exact ⟨hrows row t rfl rfl, fun did he k hk => h.identity did he k (by
      cases hk with
      | cached hc => exact .cached hc
      | stored hv hd => exact .stored hv hd), fun did he k hk => h.account did he k (by
      cases hk with
      | cached hc => exact .cached hc
      | stored hv hd => exact .stored hv hd)⟩
  | active row t _ =>
    exact h.sync (hrows row t rfl (syncCache_core ..).anchors) (hcovers row rfl)

theorem Certified.promoteOne {E : Env} {now : Time} {r : IdentityAnchor} (h : Certified A s) :
    Certified A (AnchorStore.promoteOne E now r s) := by
  have he := (promoteOne_evolved E now r s).2
  rcases promoteOne_written E now r s with hs | ⟨t, row, ht, hs⟩
  · rw [hs]
    exact h
  · rw [hs] at he ⊢
    rw [(syncCache_core E now row { s with identityAnchors := t }).anchors] at he
    have hrows : ∀ x ∈ t.rows, IsElix x.did → A x.did x.key := by
      intro x hx helix
      obtain ⟨y, hy, hxy⟩ := he.old x hx
      have hkey : x.key = y.key := (congrArg IdentityAnchor.key hxy :)
      rw [hkey, content_did hxy]
      exact h.anchor y hy (content_did hxy ▸ helix)
    obtain ⟨-, -, -, hact⟩ := activates_of_promoteRow ht
    exact h.sync hrows (hrows row (AnchorTable.activeAnchor_eq_some.1 hact.self).1)

theorem Certified.veto {P : Platform} {cid sig : String} (h : Certified A s) :
    Certified A (AnchorStore.veto P did cid sig s).2 where
  anchor x hx he := by
    obtain ⟨y, hy, hxy⟩ := (veto_evolved P did cid sig s).old x hx
    have hkey : x.key = y.key := (congrArg IdentityAnchor.key hxy :)
    rw [hkey, content_did hxy]
    exact h.anchor y hy (content_did hxy ▸ he)
  identity did' he k hk := h.identity did' he k ((veto_verified P did cid sig s).binding hk)
  account did' he k hk := h.account did' he k ((veto_accounts P did cid sig s).binding hk)

/-- The key that an account is refreshed under is bound already. -/
theorem key_of_refresh {E : Env} {now : Time} {params : Json} {reg : IdentityV2.Admitted}
    {e : AccountEntry} {t : Relay} (h : Certified A s)
    (hreg : Registers E now params s reg (.refresh e) t) (helix : IsElix reg.did) :
    A reg.did (reg.algorithm, reg.publicKeyHex) := by
  have hslot := hreg.slot_eq
  have hadmitted := (certified_stable A).nonces h (IdentityV2.admission_same E now params s)
  generalize (IdentityV2.admission E now params s).2 = u at hslot hadmitted
  unfold IdentityV2.slotOf at hslot
  have hanswer : ∀ {e}, (DidAccountCache.get reg.did u).1 = some e →
      A reg.did (e.signingAlgorithm, e.publicKeyHex) := fun he => hadmitted.answer he helix
  generalize DidAccountCache.get reg.did u = r at hslot hanswer
  obtain ⟨account, v⟩ := r
  dsimp only at hslot hanswer
  generalize DidAccountCache.getByHandle reg.handle v = r at hslot
  obtain ⟨owner, w⟩ := r
  cases account with
  | none =>
    cases owner with
    | none => cases (Prod.mk.inj hslot).1
    | some d =>
      dsimp only at hslot
      split at hslot <;> cases (Prod.mk.inj hslot).1
  | some e' =>
    cases owner with
    | none => cases (Prod.mk.inj hslot).1
    | some d =>
      dsimp only at hslot
      split at hslot
      · next hown =>
        rw [← hown.2.1, ← hown.2.2]
        exact hanswer rfl
      · cases (Prod.mk.inj hslot).1

/-- **A call binds no further keys than the ones it covers.** -/
theorem Certified.step (h : Certified A s) (act : IdentityAction) (hcovers : Covers V A s act) :
    Certified A (identityStep V s act) := by
  cases act with
  | register now fresh params => exact (certified_stable A).register h
  | anchor now params =>
    refine (certified_stable A).anchor h
      (fun reg e t hreg ht => ht.putIdentity (key_of_refresh h hreg))
      (fun reg t hreg ht => ht.putAccount (hcovers reg t hreg))
      fun reg t u hreg _ hu => hu.putIdentity (hcovers reg t hreg)
  | rotateKey now params =>
    refine (certified_stable A).rotateKey h fun rot current t hrot ht =>
      ht.of_core (DidAccountCache.rotateKey_core ..) (fun did k hk he => .inl ?_)
        fun did k hk he => ?_
    · rcases DidAccountCache.identityBinding_of_rotateKey hk with hk | ⟨-, rfl, rfl⟩
      · exact ht.identity did he k hk
      · exact hcovers rot current t hrot he
    · rcases DidAccountCache.binding_of_rotateKey hk with hk | ⟨-, rfl, rfl⟩ | hk
      · exact .inl (ht.account did he k hk)
      · exact .inl (hcovers rot current t hrot he)
      · exact .inr hk
  | store act =>
    cases act with
    | submit now anchor opts => exact h.submit hcovers
    | promoteDue now =>
      rw [identityStep, anchorStep, promoteDue]
      -- row by row, as the loop goes
      induction promotable now s generalizing s with
      | nil => exact h
      | cons r l ih => exact ih (s := AnchorStore.promoteOne V.toEnv now r s) h.promoteOne trivial
    | veto did cid sig => exact h.veto
  | present now limited params =>
    exact (certified_stable A).present h fun did e t tier hget ht =>
      ht.putAccount fun he => ht.answer (congrArg Prod.fst hget.cached) he
  | migrate params =>
    rcases MigrationStore.submit_leaves V.toPlatform params s with
      ⟨hs, -⟩ | ⟨row, t, -, -, -, hs⟩
    · rw [identityStep, hs]
      exact h
    · rw [identityStep, hs]
      refine ⟨h.anchor, fun did he k hk => ?_, fun did he k hk => ?_⟩
      · -- a migration empties the caches of both DIDs and leaves the rows
        cases hk with
        | cached hc => exact h.identity did he _ (.cached (Ets.of_delete (Ets.of_delete hc).2).2)
        | stored hv hd => exact h.identity did he _ (.stored hv hd)
      · cases hk with
        | cached hc => exact h.account did he _ (.cached (Ets.of_delete (Ets.of_delete hc).2).2)
        | stored hv hd => exact h.account did he _ (.stored hv hd)
  | account did => exact (certified_stable A).account did h
  | accountByHandle handle => exact (certified_stable A).accountByHandle handle h
  | identity now did => exact (certified_stable A).identity now did h
  | sweepExpired now =>
    refine ⟨h.anchor, fun did he k hk => ?_, fun did he k hk => h.account did he k (by
      cases hk with
      | cached hc => exact .cached hc
      | stored hv hd => exact .stored hv hd)⟩
    cases hk with
    | cached hc => exact h.identity did he _ (.cached (Option.filter_eq_some_iff.1 hc).1)
    | stored hv hd => exact h.identity did he _ (.stored hv hd)
  | restart =>
    -- the caches are lost, the rows are not
    refine ⟨h.anchor, fun did he k hk => ?_, fun did he k hk => ?_⟩
    · cases hk with
      | cached hc => cases hc
      | stored hv hd => exact h.identity did he _ (.stored hv hd)
    · cases hk with
      | cached hc => cases hc
      | stored hv hd => exact h.account did he _ (.stored hv hd)

end Step

/-! ### Runs -/

/-- A new registration of a `did:elix` that goes without a commitment names a key that the
identifier commits to or that of its active anchor. -/
def RegistrationSafe (V : VpEnv) (s : Relay) : IdentityAction → Prop
  | .anchor now params => ∀ reg t, Registers V.toEnv now params s reg .fresh t → IsElix reg.did →
      reg.commitment = .null → Commits V.toPlatform reg.did (reg.algorithm, reg.publicKeyHex) ∨
        ∃ a, s.activeAnchor reg.did = some a ∧ (reg.algorithm, reg.publicKeyHex) = a.key
  | _ => True

/-- What the last call of a run covers is authorised by the run. -/
theorem covers_of_safe {V : VpEnv} {act : IdentityAction}
    (h : Certified (Authorised V s₀ acts) (exec (identityStep V) s₀ acts))
    (hsafe : RegistrationSafe V (exec (identityStep V) s₀ acts) act) :
    Covers V (Authorised V s₀ (acts ++ [act])) (exec (identityStep V) s₀ acts) act := by
  cases act with
  | store act =>
    cases act with
    | submit now anchor opts =>
      intro row hok helix
      rcases submit_cases V.toEnv now anchor opts (exec (identityStep V) s₀ acts) with
        ⟨e, herr, -⟩ | ⟨row', hok', -, -, hacc, hent⟩
      · rw [herr] at hok
        cases hok
      · obtain rfl := Except.ok.inj (hok'.symm.trans hok)
        by_cases hreason : row'.reason = .initial
        · -- a genesis is derived from its key
          have hself := hent.selfCertifies hreason
          exact .derived (commits_of_genesis hacc.toIsRowOf helix hself)
        · -- a successor continues the active anchor, whose key is authorised
          have hsubmitted : Submitted V.toEnv (exec (identityStep V) s₀ acts)
            now anchor opts row' :=
            ⟨hok, hacc, hent⟩
          obtain ⟨p, hp, hcontinues⟩ := hsubmitted.continues hreason
          exact .chained hok hp hcontinues (h.active hp helix)
    | promoteDue now => trivial
    | veto did cid sig => trivial
  | anchor now params =>
    intro reg t hreg helix
    obtain ⟨hvalid, -⟩ := IdentityV2.admission_eq_ok hreg.admitted
    by_cases hc : reg.commitment = .null
    · -- nothing ties the key to the identifier here
      rcases hsafe reg t hreg helix hc with hk | ⟨a, ha, hk⟩
      · exact .derived hk
      · rw [hk]
        exact (h.active ha helix).append _
    · exact .derived (commits_of_binding hvalid.binding hc)
  | rotateKey now params =>
    intro rot current t hrot helix
    exact .rotated hrot (h.answer (congrArg Prod.fst hrot.current_eq) helix)
  | _ => trivial

/-- **In every run of safe calls every bound key is authorised.**  The induction is on the end of
the run: a key that the last step binds was bound before, or the step is one of the authorised
changes of a key that is. -/
theorem bound_keys_authorised (V : VpEnv) {s₀ : Relay}
    (h₀ : Certified (Commits V.toPlatform) s₀) (acts : List IdentityAction)
    (hsafe : Along (identityStep V) (RegistrationSafe V) s₀ acts) :
    Certified (Authorised V s₀ acts) (exec (identityStep V) s₀ acts) := by
  induction acts using List.reverseRecOn with
  | nil => exact h₀.imp fun _ _ h => .derived h
  | append_singleton acts act ih =>
    obtain ⟨hacts, hact, -⟩ := along_append.1 hsafe
    have hcertified := ih hacts
    rw [exec_append]
    exact (hcertified.imp fun _ _ h => h.append [act]).step act (covers_of_safe hcertified hact)

open Reputation (toyVpEnv)

/-- A registration under a commitment, which the key `n` signs. -/
def toyRegistrationV1 (n : UInt8) (did handle nonce : String) (commitment : Json) : Json :=
  (toyRegistration n did handle nonce).merge [("genesis_commitment", commitment),
    ("registration_sig", .str (toySign n
      (DidElix.registrationPayload (.str nonce) (.str did) commitment)))]

/-- Alice registers the identifier that her commitment derives. -/
def committedRun : List IdentityAction :=
  [.register 0 "nonce" (toyRegister 1 "alice"),
    .anchor 0 (toyRegistrationV1 1 ((DidElix.deriveV1 .toy toyCommitment).getD "")
      "alice.elix.cool" "nonce" toyCommitment)]

theorem committed_safe :
    Along (identityStep toyVpEnv) (RegistrationSafe toyVpEnv) Relay.empty committedRun := by
  refine ⟨trivial, fun reg t hreg _ hc => ?_, trivial⟩
  rw [(IdentityV2.admission_eq_ok hreg.admitted).1.commitment] at hc
  cases hc

theorem certified_empty (A : String → String × String → Prop) : Certified A Relay.empty := by
  refine ⟨fun x hx => absurd hx List.not_mem_nil, fun did _ k hk => ?_, fun did _ k hk => ?_⟩
  · cases hk with
    | cached hc => cases hc
    | stored hv => exact absurd hv List.not_mem_nil
  · cases hk with
    | cached hc => cases hc
    | stored hv => exact absurd hv List.not_mem_nil

theorem bound_keys_authorised_committed :
    Certified (Authorised toyVpEnv Relay.empty committedRun)
        (exec (identityStep toyVpEnv) Relay.empty committedRun) ∧
      (exec (identityStep toyVpEnv) Relay.empty committedRun).didAccounts.rows.map
        (·.publicKeyHex) = [toyKeyHex 1] :=
  ⟨bound_keys_authorised toyVpEnv (certified_empty _) committedRun committed_safe,
    by decide +kernel⟩

/-! ### A legacy identifier under another key -/

/-- A run without rotations and anchors authorises only what the identifiers commit to. -/
theorem Authorised.commits {V : VpEnv} {k : String × String} (h : Authorised V s₀ acts did k)
    (hnone : ∀ act ∈ acts, (∀ now params, act ≠ .rotateKey now params) ∧ ∀ a, act ≠ .store a) :
    Commits V.toPlatform did k := by
  cases h with
  | derived h => exact h
  | rotated h _ => exact absurd rfl ((hnone _ List.mem_append_cons_self).1 _ _)
  | chained hok _ _ _ => exact absurd rfl ((hnone _ List.mem_append_cons_self).2 _)

/-- A hash that reads the fingerprint of a legacy identity from its key on. -/
def keyHash (message : Binary) : Binary := (message.drop 43 ++ List.replicate 32 0).take 32

def keyVpEnv : VpEnv :=
  { toyVpEnv with sha256 := keyHash, sha256_length := fun m => by simp [keyHash] }

/-- What every fingerprint under a key begins with. -/
def fingerprintHead (n : UInt8) : Text :=
  '{' :: (Json.encodeString "method" ++ ':' :: Json.encodeString "did:elix" ++
    ',' :: (Json.encodeString "v" ++ ':' :: Json.encodeInt 2 ++
      ',' :: (Json.encodeString "identity_key" ++ ':' :: Json.encodeString (toyKeyHex n))))

theorem fingerprintHead_prefix (n : UInt8) (handle custody : String) :
    fingerprintHead n <+: DidElix.fingerprint (toyKeyHex n) handle custody "p256-sha256" := by
  unfold DidElix.fingerprint
  rw [if_neg (by decide)]
  simp only [Json.encode, Json.encodeFields, Json.commaSep, fingerprintHead, List.append_assoc,
    List.cons_append, List.cons_prefix_cons, List.prefix_append_right_inj, List.prefix_append,
    and_true]

theorem keyHash_fingerprint (handle custody : String) :
    (keyHash (DidElix.fingerprint (toyKeyHex 2) handle custody "p256-sha256").utf8).take 16
      = bytes "0402020202020202" := by
  obtain ⟨rest, hrest⟩ := fingerprintHead_prefix 2 handle custody
  have hhead : ((fingerprintHead 2).utf8.drop 43).take 16 = bytes "0402020202020202" ∧
      59 ≤ (fingerprintHead 2).utf8.length := by decide +kernel
  rw [← hrest, Text.utf8, List.flatMap_append, ← Text.utf8, ← Text.utf8, keyHash, List.take_take,
    List.drop_append_of_le_length (by omega), List.append_assoc, List.take_append_of_le_length,
    ← hhead.1]
  · rfl
  · rw [List.length_drop]
    omega

/-- The legacy identifier of Alice, whose key is the first one. -/
def legacyDid : String :=
  DidElix.derive keyVpEnv.toPlatform (toyKeyHex 1) "alice.elix.cool" "software" "p256-sha256"

set_option maxRecDepth 100000 in
theorem legacyDid_not_commits :
    ¬ Commits keyVpEnv.toPlatform legacyDid ("p256-sha256", toyKeyHex 2) := by
  intro h
  have hlegacy : chars legacyDid ≠ chars "did:elix:" ++ encode32 (bytes "0402020202020202") ∧
      (chars legacyDid).length = 35 := by decide +kernel
  cases h with
  | legacy _ handle custody _ h =>
    have hchars := congrArg chars h
    rw [DidElix.derive, chars_ofList] at hchars
    rw [← keyHash_fingerprint handle custody] at hlegacy
    exact hlegacy.1 hchars.symm
  | v1 commitment _ _ h =>
    -- a v1 identifier is longer
    have hlen := congrArg (fun d => (chars d).length) (DidElix.matchesV1_iff.1 h).2
    rw [chars_ofList, List.length_append, length_encode32, Platform.sha256_length, hlegacy.2,
      show (chars "did:elix:z").length = 10 by decide] at hlen
    omega

/-- Mallory registers the identifier of Alice under the second key. -/
def mallorysRun : List IdentityAction :=
  [.register 0 "nonce" (toyRegister 2 "mallory"),
    .anchor 0 (toyRegistration 2 legacyDid "mallory.elix.cool" "nonce")]

theorem mallorys_accounts :
    (exec (identityStep keyVpEnv) Relay.empty mallorysRun).didAccounts.rows.map
        (fun a => (a.did, a.signingAlgorithm, a.publicKeyHex))
      = [(legacyDid, "p256-sha256", toyKeyHex 2)] ∧ IsElix legacyDid := by
  unfold IsElix
  decide +kernel

/-- Anyone can register a legacy identifier under their own key. -/
theorem bound_key_not_authorised :
    ¬ Certified (Authorised keyVpEnv Relay.empty mallorysRun)
      (exec (identityStep keyVpEnv) Relay.empty mallorysRun) := by
  intro h
  obtain ⟨haccounts, helix⟩ := mallorys_accounts
  have hnone : ∀ act ∈ mallorysRun,
      (∀ now params, act ≠ .rotateKey now params) ∧ ∀ a, act ≠ .store a := by
    simp [mallorysRun]
  generalize exec (identityStep keyVpEnv) Relay.empty mallorysRun = s at h haccounts
  have hmem : (legacyDid, "p256-sha256", toyKeyHex 2) ∈ s.didAccounts.rows.map
      fun a => (a.did, a.signingAlgorithm, a.publicKeyHex) := by
    rw [haccounts]
    exact List.mem_singleton_self _
  obtain ⟨a, ha, heq⟩ := List.mem_map.1 hmem
  obtain ⟨hdid, hkey⟩ := Prod.mk.inj heq
  have hbound := h.account legacyDid helix _ (.stored ha hdid)
  rw [hkey] at hbound
  exact legacyDid_not_commits (hbound.commits hnone)

end Ansible
