import Ansible.Lib.Checks
import Ansible.Relay.AnchorStore

/-!
# What a submission does

Everything an accepted submission establishes, and the rows it leaves, stated once so
that no later proof opens `submit` again.

## Main results

* `submit_cases` — **a submission is refused and changes nothing, or its row is
  accepted and enters the table.**
-/

namespace Ansible

namespace AnchorStore

/-- The two states agree on freezes and migrations, which submissions only read. -/
structure SameGuards (s s' : Relay) : Prop where
  freezes : s'.accountFreezes = s.accountFreezes
  migrations : s'.didElixMigrations = s.didElixMigrations

theorem SameGuards.refl (s : Relay) : SameGuards s s := ⟨rfl, rfl⟩

variable {s : Relay} {anchor : Json} {did : String} {reason : Reason}

theorem SameGuards.frozen {s' : Relay} (h : SameGuards s s') (did : String) :
    s'.frozen did = s.frozen did := by
  rw [Relay.frozen, Relay.frozen, h.freezes]

/-! ### The cast of an anchor to a row -/

theorem castText_eq_ok {j : Json} {o : Option String} (h : castText j = .ok o) :
    (j = .null ∧ o = none) ∨ ∃ t, j = .str t ∧ o = if isBlank t then none else some t := by
  cases j with
  | null => exact .inl ⟨rfl, (Except.ok.inj h).symm⟩
  | str t => exact .inr ⟨t, rfl, (Except.ok.inj h).symm⟩
  | _ => cases h

theorem castText_of_not_blank {t : String} (h : isBlank t = false) :
    castText (.str t) = .ok (some t) := by
  rw [castText, h]
  rfl

theorem castRequired_eq_ok {j : Json} {t : String} (h : castRequired j = .ok t) :
    j = .str t ∧ isBlank t = false := by
  unfold castRequired at h
  split at h
  · next x hx =>
    cases h
    rcases castText_eq_ok hx with ⟨-, h0⟩ | ⟨t, rfl, ht⟩
    · cases h0
    · split at ht
      · cases ht
      · next hb =>
        cases ht
        exact ⟨rfl, by simpa using hb⟩
  · cases h

/-- A row holds what an anchor object says. -/
structure IsRowOf (anchor : Json) (row : IdentityAnchor) : Prop where
  did_not_blank : isBlank row.did = false
  prev : castText (anchor.fetch "prev_anchor_cid") = .ok row.prevAnchorCid
  identityKey : anchor.fetch "identity_key" = .str row.identityKey
  algorithm : identityKeyAlgorithm anchor = .str row.identityKeyAlgorithm
  commitment : castMap (anchor.fetch "genesis_commitment") = .ok row.genesisCommitment
  handle : anchor.fetch "handle" = .str row.handle
  custody : custodyClass anchor = .str row.custodyClass
  version : row.schemaVersion = schemaVersion anchor
  devices : row.devices = devices anchor
  sig : anchor.fetch "sig" = .str row.sig
  deviceSig : castText (anchor.fetch "device_sig") = .ok row.deviceSig

/-- A row that `anchor_attrs` casts. -/
structure CastOf (anchor : Json) (did : String) (body : Text) (cid : String) (reason : Reason)
    (state : AnchorState) (graceUntil : Option Time) (authorization : Json)
    (row : IdentityAnchor) : Prop extends IsRowOf anchor row where
  did_eq : row.did = did
  body_eq : row.canonicalBody = body
  cid_eq : row.anchorCid = cid
  reason_eq : row.reason = reason
  state_eq : row.state = state
  graceUntil_eq : row.graceUntil = graceUntil
  authorizationSig : castText authorization = .ok row.authorizationSig

theorem anchorAttrs_eq_ok {body : Text} {cid : String} {state : AnchorState} {g : Option Time}
    {auth : Json} {row : IdentityAnchor}
    (h : anchorAttrs anchor did body cid reason state g auth = .ok row) :
    CastOf anchor did body cid reason state g auth row := by
  simp only [anchorAttrs, bind_eq_ok] at h
  obtain ⟨d, hd, prev, hprev, key, hkey, alg, halg, gc, hgc, handle, hhandle, cust, hcust, sig,
    hsig, dsig, hdsig, asig, hasig, hrow⟩ := h
  cases hrow
  obtain ⟨hdj, hdb⟩ := castRequired_eq_ok hd
  exact {
    did_not_blank := hdb
    prev := hprev
    identityKey := (castRequired_eq_ok hkey).1
    algorithm := (castRequired_eq_ok halg).1
    commitment := hgc
    handle := (castRequired_eq_ok hhandle).1
    custody := (castRequired_eq_ok hcust).1
    version := rfl
    devices := rfl
    sig := (castRequired_eq_ok hsig).1
    deviceSig := hdsig
    did_eq := (Json.str.inj hdj).symm
    body_eq := rfl
    cid_eq := rfl
    reason_eq := rfl
    state_eq := rfl
    graceUntil_eq := rfl
    authorizationSig := hasig }

/-! ### The three writes of a submission -/

variable (E : Env) (now : Time)

theorem syncCache_core (a : IdentityAnchor) (s : Relay) : s.SameCore (syncCache E now a s) := by
  unfold syncCache
  exact (DidAccountCache.get_core a.did s).trans (DidAccountCache.put_core ..)

theorem insertAnchor_eq_ok {t t' : AnchorTable} {a : IdentityAnchor}
    (h : insertAnchor t a = .ok t') : storable a = true ∧ t'.rows = t.rows ++ [a] := by
  unfold insertAnchor at h
  split at h
  · cases h
  · next hs =>
    split at h
    · next t₁ ht =>
      cases h
      exact ⟨by simpa using hs, Table.rows_of_commit ht⟩
    · split at h <;> cases h

/-- The rows after `prev` is superseded. -/
def superseding (did cid : String) (rows : List IdentityAnchor) : List IdentityAnchor :=
  rows.map fun a => if a.hasKey did cid then a.withState .superseded else a

/-- The outcome of a write: refused with the state as it was, or a row and new rows. -/
def Outcome (s : Relay) (r : SubmitResult × Relay)
    (p : IdentityAnchor → List IdentityAnchor → Prop) : Prop :=
  (∃ e, r.1 = .error e ∧ r.2 = s) ∨
    ∃ row, r.1 = .ok row ∧ storable row = true ∧ SameGuards s r.2 ∧
      p row r.2.identityAnchors.rows

theorem Outcome.refused (s : Relay) (e : SubmitError)
    (p : IdentityAnchor → List IdentityAnchor → Prop) : Outcome s (.error e, s) p :=
  .inl ⟨e, rfl, rfl⟩

theorem Outcome.mono {r : SubmitResult × Relay} {p q : IdentityAnchor → List IdentityAnchor → Prop}
    (h : Outcome s r p) (hpq : ∀ row rows, p row rows → q row rows) : Outcome s r q := by
  rcases h with h | ⟨row, h1, h2, h3, h4⟩
  · exact .inl h
  · exact .inr ⟨row, h1, h2, h3, hpq _ _ h4⟩

theorem Outcome.check {c : Prop} [Decidable c] {e : SubmitError} {r : SubmitResult × Relay}
    {p : IdentityAnchor → List IdentityAnchor → Prop} (h : ¬ c → Outcome s r p) :
    Outcome s (if c then (.error e, s) else r) p := by
  split
  · exact .refused ..
  · next hc => exact h hc

theorem insertActive_outcome (anchor : Json) (did : String) (body : Text) (cid : String)
    (reason : Reason) (s : Relay) :
    Outcome s (insertActive E now anchor did body cid reason s) fun row rows =>
      CastOf anchor did body cid reason .active none .null row ∧
        rows = s.identityAnchors.rows ++ [row] := by
  unfold insertActive
  split
  · exact .refused ..
  · next row hrow =>
    split
    · exact .refused ..
    · next t ht =>
      obtain ⟨hs, hrows⟩ := insertAnchor_eq_ok ht
      have hcore := syncCache_core E now row { s with identityAnchors := t }
      exact .inr ⟨row, rfl, hs, ⟨hcore.freezes, hcore.migrations⟩, anchorAttrs_eq_ok hrow,
        by rw [hcore.anchors]; exact hrows⟩

theorem swapInActive_outcome (anchor : Json) (did : String) (body : Text) (cid : String)
    (reason : Reason) (prev : IdentityAnchor) (s : Relay) :
    Outcome s (swapInActive E now anchor did body cid reason prev s) fun row rows =>
      CastOf anchor did body cid reason .active none .null row ∧
        rows = superseding did prev.anchorCid s.identityAnchors.rows ++ [row] := by
  unfold swapInActive
  split
  · exact .refused ..
  · next row hrow =>
    split
    · exact .refused ..
    · next t ht =>
      split
      · exact .refused ..
      · next t' ht' =>
        obtain ⟨hs, hrows⟩ := insertAnchor_eq_ok ht'
        have hcore := syncCache_core E now row { s with identityAnchors := t' }
        refine .inr ⟨row, rfl, hs, ⟨hcore.freezes, hcore.migrations⟩, anchorAttrs_eq_ok hrow, ?_⟩
        rw [hcore.anchors]
        exact hrows.trans (by rw [Table.rows_of_commit ht]; rfl)

theorem insertPendingRecovery_outcome (anchor : Json) (did : String) (body : Text) (cid : String)
    (proof : Json) (s : Relay) :
    Outcome s (insertPendingRecovery E now anchor did body cid proof s) fun row rows =>
      CastOf anchor did body cid .recovery .pending
        (some (now + seconds E.identityRecoveryGraceSeconds)) proof row ∧
        rows = s.identityAnchors.rows ++ [row] := by
  unfold insertPendingRecovery
  dsimp only
  split
  · exact .refused ..
  · next row hrow =>
    split
    · exact .refused ..
    · next t ht =>
      obtain ⟨hs, hrows⟩ := insertAnchor_eq_ok ht
      exact .inr ⟨row, rfl, hs, ⟨rfl, rfl⟩, anchorAttrs_eq_ok hrow, hrows⟩

/-! ### The dispatch -/

/-- The recovery proof of a submission: that of the caller, else that of the anchor. -/
def proofOf (anchor : Json) (opts : SubmitOpts) : Json :=
  opts.recoveryProof.orElse (anchor.fetch "recovery_proof")

/-- The authority behind a recovery: a consumed recovery code below version 4, or a signature
of the active identity key or of an enrolled device. -/
def RecoveryAuthorized (P : Platform) (anchor : Json) (opts : SubmitOpts) (prev : IdentityAnchor)
    (body : Text) : Prop :=
  (schemaVersion anchor < 4 ∧ opts.recoveryAuthorized = true) ∨
    activeAuthoritySigned P prev body (proofOf anchor opts) = true

/-- How an accepted row entered the table, by its reason: the checks of that reason and the
rows afterwards. -/
inductive Entered (P : Platform) (anchor : Json) (opts : SubmitOpts) (s : Relay)
    (row : IdentityAnchor) : List IdentityAnchor → Prop
  | initial (hreason : row.reason = .initial) (hprev : anchor.fetch "prev_anchor_cid" = .null)
      (hself : genesisDidSelfCertifies P anchor row.did = true)
      (hnone : s.activeAnchor row.did = none) (hstate : row.state = .active) :
      Entered P anchor opts s row (s.identityAnchors.rows ++ [row])
  | rotation {prev : IdentityAnchor} (hreason : row.reason = .rotation)
      (hactive : s.activeAnchor row.did = some prev)
      (hlink : anchor.fetch "prev_anchor_cid" = .str prev.anchorCid)
      (hkey : sameKey anchor prev = false)
      (hsig : verify P (.str prev.identityKeyAlgorithm) (.str prev.identityKey) row.canonicalBody
        (anchor.fetch "device_sig") = true) (hstate : row.state = .active) :
      Entered P anchor opts s row
        (superseding row.did prev.anchorCid s.identityAnchors.rows ++ [row])
  | deviceChange {prev : IdentityAnchor} (hreason : row.reason = .deviceChange)
      (hactive : s.activeAnchor row.did = some prev)
      (hlink : anchor.fetch "prev_anchor_cid" = .str prev.anchorCid)
      (hkey : sameKey anchor prev = true)
      (hcustody : (custodyClass anchor).eqv (.str prev.custodyClass) = true)
      (hsig : activeAuthoritySigned P prev row.canonicalBody (anchor.fetch "device_sig") = true)
      (hstate : row.state = .active) :
      Entered P anchor opts s row
        (superseding row.did prev.anchorCid s.identityAnchors.rows ++ [row])
  | recovery {prev : IdentityAnchor} (hreason : row.reason = .recovery)
      (hactive : s.activeAnchor row.did = some prev)
      (hlink : anchor.fetch "prev_anchor_cid" = .str prev.anchorCid)
      (hkey : 4 ≤ schemaVersion anchor → sameKey anchor prev = false)
      (hauth : RecoveryAuthorized P anchor opts prev row.canonicalBody)
      (hstate : row.state = .pending) :
      Entered P anchor opts s row (s.identityAnchors.rows ++ [row])

theorem requireChainLink_eq_ok {prev : IdentityAnchor}
    (h : requireChainLink anchor did s = .ok prev) :
    s.activeAnchor did = some prev ∧ anchor.fetch "prev_anchor_cid" = .str prev.anchorCid := by
  unfold requireChainLink at h
  split at h
  · cases h
  · next p hp =>
    split at h
    · next hlink =>
      cases h
      exact ⟨hp, by simpa using hlink⟩
    · cases h

/-- What each dispatch leaves: a row cast from the anchor, self-signed, that entered. -/
def Dispatched (E : Env) (anchor : Json) (opts : SubmitOpts) (s : Relay) (did : String)
    (body : Text) (cid : String) (reason : Reason) (row : IdentityAnchor)
    (rows : List IdentityAnchor) : Prop :=
  (∃ state g auth, CastOf anchor did body cid reason state g auth row ∧
    auth = if reason = .recovery then proofOf anchor opts else .null) ∧
  selfSigned E.toPlatform anchor body = true ∧ Entered E.toPlatform anchor opts s row rows

theorem dispatchInitial_outcome (anchor : Json) (opts : SubmitOpts) (did : String) (body : Text)
    (cid : String) (s : Relay) :
    Outcome s (dispatchInitial E now anchor did body cid s)
      (Dispatched E anchor opts s did body cid .initial) := by
  unfold dispatchInitial
  refine .check fun h1 => .check fun h2 => .check fun h3 => .check fun h4 => ?_
  refine (insertActive_outcome ..).mono ?_
  rintro row rows ⟨hc, rfl⟩
  refine ⟨⟨_, _, _, hc, rfl⟩, by simpa using h4, ?_⟩
  obtain rfl := hc.did_eq
  exact .initial hc.reason_eq (by simpa using h1) (by simpa using h2) (by simpa using h3)
    hc.state_eq

theorem dispatchRotation_outcome (anchor : Json) (opts : SubmitOpts) (did : String) (body : Text)
    (cid : String) (s : Relay) :
    Outcome s (dispatchRotation E now anchor did body cid s)
      (Dispatched E anchor opts s did body cid .rotation) := by
  unfold dispatchRotation
  split
  · exact .refused ..
  · next prev hprev =>
    obtain ⟨hactive, hlink⟩ := requireChainLink_eq_ok hprev
    refine .check fun h1 => .check fun h2 => .check fun h3 => ?_
    refine (swapInActive_outcome ..).mono ?_
    rintro row rows ⟨hc, rfl⟩
    refine ⟨⟨_, _, _, hc, rfl⟩, by simpa using h2, ?_⟩
    obtain rfl := hc.did_eq
    obtain rfl := hc.body_eq
    exact .rotation hc.reason_eq hactive hlink (by simpa using h1) (by simpa using h3)
      hc.state_eq

theorem dispatchDeviceChange_outcome (anchor : Json) (opts : SubmitOpts) (did : String)
    (body : Text) (cid : String) (s : Relay) :
    Outcome s (dispatchDeviceChange E now anchor did body cid s)
      (Dispatched E anchor opts s did body cid .deviceChange) := by
  unfold dispatchDeviceChange
  split
  · exact .refused ..
  · next prev hprev =>
    obtain ⟨hactive, hlink⟩ := requireChainLink_eq_ok hprev
    refine .check fun h1 => .check fun h2 => .check fun h3 => .check fun h4 => ?_
    refine (swapInActive_outcome ..).mono ?_
    rintro row rows ⟨hc, rfl⟩
    refine ⟨⟨_, _, _, hc, rfl⟩, by simpa using h3, ?_⟩
    obtain rfl := hc.did_eq
    obtain rfl := hc.body_eq
    exact .deviceChange hc.reason_eq hactive hlink (by simpa using h1) (by simpa using h2)
      (by simpa using h4) hc.state_eq

theorem dispatchRecovery_outcome (anchor : Json) (opts : SubmitOpts) (did : String) (body : Text)
    (cid : String) (s : Relay) :
    Outcome s (dispatchRecovery E now anchor did body cid (proofOf anchor opts)
        opts.recoveryAuthorized s)
      (Dispatched E anchor opts s did body cid .recovery) := by
  unfold dispatchRecovery
  split
  · exact .refused ..
  · next prev hprev =>
    obtain ⟨hactive, hlink⟩ := requireChainLink_eq_ok hprev
    refine .check fun h1 => .check fun h2 => .check fun h3 => ?_
    refine (insertPendingRecovery_outcome ..).mono ?_
    rintro row rows ⟨hc, rfl⟩
    refine ⟨⟨_, _, _, hc, rfl⟩, by simpa using h2, ?_⟩
    obtain rfl := hc.did_eq
    obtain rfl := hc.body_eq
    refine .recovery hc.reason_eq hactive hlink ?_ ?_ hc.state_eq
    · intro h4
      simpa [h4] using h1
    · exact not_not.1 h3

theorem dispatch_outcome (reason : Reason) (anchor : Json) (opts : SubmitOpts) (did : String)
    (body : Text) (cid : String) (s : Relay) :
    Outcome s (dispatch E now reason anchor did body cid (proofOf anchor opts)
        opts.recoveryAuthorized s) (Dispatched E anchor opts s did body cid reason) := by
  cases reason with
  | initial => exact dispatchInitial_outcome ..
  | rotation => exact dispatchRotation_outcome ..
  | deviceChange => exact dispatchDeviceChange_outcome ..
  | recovery => exact dispatchRecovery_outcome ..

/-! ### The whole submission -/

/-- The checks an accepted anchor passed, and the content of its row. -/
structure Accepted (E : Env) (anchor : Json) (opts : SubmitOpts) (s : Relay)
    (row : IdentityAnchor) : Prop extends IsRowOf anchor row where
  did : anchor.fetch "did" = .str row.did
  reason : reasonOf (anchor.fetch "reason") = some row.reason
  shaped : wellShaped anchor = true
  allowed : IdentityWritePolicy.allowed E.toConfig (identityKeyAlgorithm anchor) = true
  protocol : validateProtocol E.toPlatform anchor row.did row.reason s = .ok ()
  unguarded : ensureNotFrozen row.did s = .ok ()
  attested : verifyDeviceAttestations E.toPlatform anchor = true
  body : row.canonicalBody = canonicalBody anchor
  cid : row.anchorCid = cidOfBody E.toPlatform row.canonicalBody
  selfSigned : selfSigned E.toPlatform anchor row.canonicalBody = true
  authorizationSig : castText (if row.reason = .recovery then proofOf anchor opts else .null)
    = .ok row.authorizationSig
  storable : storable row = true

theorem v1TransitionOk_some {commitment : Json} {p : IdentityAnchor} (h : reason ≠ .initial) :
    v1TransitionOk anchor reason (some p) commitment
      = (p.schemaVersion == 4 && (p.genesisCommitment.getD .null).eqv commitment) := by
  cases reason with
  | initial => exact absurd rfl h
  | _ => rfl

/-- What the protocol check establishes: a v4 anchor carries a valid commitment of its DID
that continues that of the active anchor, and no lower version follows version 4. -/
structure ProtocolOk (P : Platform) (anchor : Json) (did : String) (reason : Reason) (s : Relay) :
    Prop where
  lower : 1 ≤ schemaVersion anchor
  upper : schemaVersion anchor ≤ 4
  valid : 4 ≤ schemaVersion anchor →
    DidElix.validateV1Commitment (anchor.fetch "genesis_commitment") = true
  matchesDid : 4 ≤ schemaVersion anchor →
    DidElix.matchesV1 P did (anchor.fetch "genesis_commitment") = true
  transition : 4 ≤ schemaVersion anchor →
    v1TransitionOk anchor reason (if reason = .initial then none else s.activeAnchor did)
      (anchor.fetch "genesis_commitment") = true
  noDrop : schemaVersion anchor < 4 → reason ≠ .initial → ∀ p, s.activeAnchor did = some p →
    p.schemaVersion < 4

theorem validateProtocol_eq_ok {P : Platform}
    (h : validateProtocol P anchor did reason s = .ok ()) : ProtocolOk P anchor did reason s := by
  unfold validateProtocol at h
  generalize hprevious : (if reason = .initial then none else s.activeAnchor did) = previous at h
  dsimp only at h
  split at h
  · cases h
  next hrange =>
  split at h
  · next h4 =>
    split at h
    · cases h
    next hvalid =>
    split at h
    · cases h
    next hmatches =>
    split at h
    · cases h
    next htransition =>
    exact ⟨by omega, by omega, fun _ => by simpa using hvalid, fun _ => by simpa using hmatches,
      fun _ => by rw [hprevious]; simpa using htransition, fun h => absurd h4 (by omega)⟩
  · next h4 =>
    split at h
    · cases h
    next hdrop =>
    refine ⟨by omega, by omega, fun h => by omega, fun h => by omega, fun h => by omega, ?_⟩
    intro _ hreason p hp
    rw [if_neg hreason, hp] at hprevious
    subst hprevious
    simpa using hdrop

theorem validateShape_eq_ok (h : validateShape anchor = .ok (did, reason)) :
    wellShaped anchor = true ∧ anchor.fetch "did" = .str did ∧
      reasonOf (anchor.fetch "reason") = some reason := by
  unfold validateShape at h
  split at h
  · next hs =>
    split at h
    · next d r hd hr =>
      cases h
      exact ⟨hs, by simpa using hd, hr⟩
    · cases h
  · cases h

/-- **A submission is refused and changes nothing, or its row passed every check and
entered the table.** -/
theorem submit_cases (anchor : Json) (opts : SubmitOpts) (s : Relay) :
    Outcome s (submit E now anchor opts s) fun row rows =>
      Accepted E anchor opts s row ∧ Entered E.toPlatform anchor opts s row rows := by
  unfold submit
  dsimp only
  split
  · exact .refused ..
  · next did reason hshape =>
    obtain ⟨hshaped, hdid, hreason⟩ := validateShape_eq_ok hshape
    split
    · exact .refused ..
    next hallowed =>
    split
    · exact .refused ..
    next hprotocol =>
    split
    · exact .refused ..
    next hguard =>
    split
    · exact .refused ..
    next hattested =>
    have hdispatch := dispatch_outcome E now reason anchor opts did (canonicalBody anchor)
      (cidOfBody E.toPlatform (canonicalBody anchor)) s
    rcases hdispatch with h | ⟨row, hok, hstored, hguards, ⟨state, g, auth, hc, hauth⟩, hself, hent⟩
    · exact .inl h
    · refine .inr ⟨row, hok, hstored, hguards, ?_, hent⟩
      obtain rfl := hc.did_eq
      obtain rfl := hc.reason_eq
      exact {
        toIsRowOf := hc.toIsRowOf
        did := hdid
        reason := hreason
        shaped := hshaped
        allowed := by simpa using hallowed
        protocol := hprotocol
        unguarded := hguard
        attested := by simpa using hattested
        body := hc.body_eq
        cid := by rw [hc.body_eq]; exact hc.cid_eq
        selfSigned := by rw [hc.body_eq]; exact hself
        authorizationSig := hauth ▸ hc.authorizationSig
        storable := hstored }

end AnchorStore

end Ansible
