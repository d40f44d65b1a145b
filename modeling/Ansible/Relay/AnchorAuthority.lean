import Ansible.Relay.AnchorChain

/-!
# Who may change the key of a DID

Every row of a table that started empty was accepted by a submission of the run, and what
that submission checked authorises the row whenever it is activated.  Within a DID the
rows agree on being of version 4 and, if they are, on the genesis commitment.

## Main definitions

* `KeySigned`, `DeviceSigned` — an anchor is signed by the authority of another one.
* `Ledger` — what the rows of one DID have in common.

## Main results

* `key_changes_authorized` — **in every run key changes of version 4 are authorised by the
  anchor that was active**, and the commitment and the version stay.
-/

namespace Ansible

namespace AnchorStore

/-! ### The submission behind a row -/

/-- The submission in the state `s` was accepted and stored `row`. -/
structure Submitted (E : Env) (s : Relay) (now : Time) (anchor : Json) (opts : SubmitOpts)
    (row : IdentityAnchor) : Prop where
  ok : (submit E now anchor opts s).1 = .ok row
  accepted : Accepted E anchor opts s row
  entered : Entered E.toPlatform anchor opts s row
    (submit E now anchor opts s).2.identityAnchors.rows

variable {P : Platform} {anchor : Json} {opts : SubmitOpts} {s : Relay}
  {row x prev : IdentityAnchor} {rows : List IdentityAnchor} {E : Env} {now : Time}

theorem entered_rows (h : Entered P anchor opts s row rows) (hx : x ∈ rows) :
    x = row ∨ ∃ y ∈ s.identityAnchors.rows, x.content = y.content := by
  cases h with
  | initial | recovery =>
    rcases List.mem_append.1 hx with hx | hx
    · exact .inr ⟨x, hx, rfl⟩
    · exact .inl (List.mem_singleton.1 hx)
  | rotation | deviceChange =>
    rcases List.mem_append.1 hx with hx | hx
    · exact .inr ((evolved_superseding ..).old x hx)
    · exact .inl (List.mem_singleton.1 hx)

theorem Entered.selfCertifies (h : Entered P anchor opts s row rows)
    (hr : row.reason = .initial) : genesisDidSelfCertifies P anchor row.did = true := by
  cases h with
  | initial _ _ hself => exact hself
  | rotation hreason | deviceChange hreason | recovery hreason =>
    rw [hr] at hreason
    cases hreason

theorem promoteDue_evolved (E : Env) (now : Time) (s : Relay) :
    Evolved s.identityAnchors.rows (promoteDue E now s).identityAnchors.rows := by
  unfold promoteDue
  induction promotable now s generalizing s with
  | nil => exact .refl _
  | cons r l ih => exact (promoteOne_evolved E now r s).2.trans (ih (promoteOne E now r s))

theorem veto_evolved (P : Platform) (did cid sig : String) (s : Relay) :
    Evolved s.identityAnchors.rows (veto P did cid sig s).2.identityAnchors.rows := by
  unfold veto
  split
  · exact .refl _
  · exact doVeto_evolved ..

/-- Some row has the content of `x`. -/
def Stored (x : IdentityAnchor) (s : Relay) : Prop :=
  ∃ y ∈ s.identityAnchors.rows, y.content = x.content

/-- **Every row was accepted by a submission of the run.** -/
theorem exists_submission {s₀ : Relay} (h₀ : s₀.identityAnchors.rows = [])
    {acts : List AnchorAction} (hx : x ∈ (exec (anchorStep E) s₀ acts).identityAnchors.rows) :
    ∃ pre now anchor opts post row, acts = pre ++ .submit now anchor opts :: post ∧
      Submitted E (exec (anchorStep E) s₀ pre) now anchor opts row ∧ row.content = x.content := by
  have hstart : ¬ Stored x s₀ := by simp [Stored, h₀]
  have hend : Stored x (exec (anchorStep E) s₀ acts) := ⟨x, hx, rfl⟩
  obtain ⟨pre, act, post, rfl, hnot, y, hy, hyx⟩ := exists_step_of_not hstart hend
  generalize hs : exec (anchorStep E) s₀ pre = s at hnot hy
  have hold : ¬ Evolved s.identityAnchors.rows (anchorStep E s act).identityAnchors.rows := by
    intro he
    obtain ⟨z, hz, hzy⟩ := he.old y hy
    exact hnot ⟨z, hz, hzy ▸ hyx⟩
  cases act with
  | promoteDue now => exact absurd (promoteDue_evolved E now s) hold
  | veto did cid sig => exact absurd (veto_evolved E.toPlatform did cid sig s) hold
  | submit now anchor opts =>
    rcases submit_cases E now anchor opts s with ⟨_, -, hsame⟩ | ⟨row, hok, -, -, hacc, hent⟩
    · exact absurd (by rw [anchorStep, hsame]; exact .refl _) hold
    · refine ⟨pre, now, anchor, opts, post, row, rfl, ?_, ?_⟩
      · rw [hs]
        exact ⟨hok, hacc, hent⟩
      · rcases entered_rows hent hy with rfl | ⟨z, hz, hzy⟩
        · exact hyx
        · exact absurd ⟨z, hz, hzy ▸ hyx⟩ hnot

/-! ### Authority -/

/-- Some signature of the text by the identity key of `p` verifies. -/
def KeySigned (P : Platform) (p : IdentityAnchor) (body : Text) : Prop :=
  ∃ sig, verify P (.str p.identityKeyAlgorithm) (.str p.identityKey) body sig = true

/-- Some signature of the text by a device that `p` enrols verifies. -/
def DeviceSigned (P : Platform) (p : IdentityAnchor) (body : Text) : Prop :=
  ∃ key ∈ enrolledDeviceKeys p, ∃ sig, verify P (.str "ed25519") (.str key) body sig = true

theorem signed_of_authority {p : IdentityAnchor} {body : Text} {sig : Json}
    (h : activeAuthoritySigned P p body sig = true) :
    KeySigned P p body ∨ DeviceSigned P p body := by
  unfold activeAuthoritySigned at h
  split at h
  · cases h
  · cases h
  · rcases Bool.or_eq_true _ _ ▸ h with h | h
    · exact .inl ⟨_, h⟩
    · obtain ⟨key, hkey, hsig⟩ := List.any_eq_true.1 h
      exact .inr ⟨key, hkey, _, hsig⟩

/-- What authorises the successor `row` of the anchor `p`: a signature over its body by the
identity key of `p` or, unless it is a rotation, by a device that `p` enrols. -/
def AuthorizedBy (P : Platform) (p row : IdentityAnchor) : Prop :=
  KeySigned P p row.canonicalBody ∨ (row.reason ≠ .rotation ∧ DeviceSigned P p row.canonicalBody)

/-- What lets the submitted `row` succeed the anchor `p`.  The authority is that of `p` or, below
version 4, a recovery code of the DID that the caller consumed; what is signed names the key. -/
structure Continues (P : Platform) (p : IdentityAnchor) (anchor : Json) (opts : SubmitOpts)
    (row : IdentityAnchor) : Prop where
  body : row.canonicalBody = canonicalBody anchor
  key : anchor.fetch "identity_key" = .str row.identityKey
  authority : AuthorizedBy P p row ∨
    (row.reason = .recovery ∧ row.schemaVersion < 4 ∧ opts.recoveryAuthorized = true)

theorem Submitted.continues (h : Submitted E s now anchor opts row)
    (hreason : row.reason ≠ .initial) :
    ∃ p, s.activeAnchor row.did = some p ∧ Continues E.toPlatform p anchor opts row := by
  have hbody := h.accepted.body
  have hkey := h.accepted.identityKey
  have hother : ∀ {p sig}, row.reason ≠ .rotation →
      activeAuthoritySigned E.toPlatform p row.canonicalBody sig = true →
      AuthorizedBy E.toPlatform p row := fun hr hsig =>
    (signed_of_authority hsig).imp_right fun h => ⟨hr, h⟩
  have hent := h.entered
  generalize (submit E now anchor opts s).2.identityAnchors.rows = rows at hent
  cases hent with
  | initial hr => exact absurd hr hreason
  | rotation _ hactive _ _ hsig => exact ⟨_, hactive, hbody, hkey, .inl (.inl ⟨_, hsig⟩)⟩
  | deviceChange hr hactive _ _ _ hsig =>
    exact ⟨_, hactive, hbody, hkey, .inl (hother (by simp [hr]) hsig)⟩
  | recovery hr hactive _ _ hauth =>
    refine ⟨_, hactive, hbody, hkey, ?_⟩
    -- the code counts below version 4 only
    rcases hauth with ⟨hlt, hcode⟩ | hsig
    · exact .inr ⟨hr, h.accepted.version ▸ hlt, hcode⟩
    · exact .inl (hother (by simp [hr]) hsig)

theorem Submitted.authorized (h : Submitted E s now anchor opts row) (h4 : 4 ≤ row.schemaVersion)
    (hreason : row.reason ≠ .initial) :
    ∃ p, s.activeAnchor row.did = some p ∧ AuthorizedBy E.toPlatform p row := by
  obtain ⟨p, hp, hcontinues⟩ := h.continues hreason
  refine ⟨p, hp, hcontinues.authority.resolve_right ?_⟩
  rintro ⟨-, hlt, -⟩
  omega

theorem dispatch_code_blind (E : Env) (now : Time) (h4 : 4 ≤ schemaVersion anchor) (reason : Reason)
    (did : String) (body : Text) (cid : String) (proof : Json) (s : Relay) :
    dispatch E now reason anchor did body cid proof true s
      = dispatch E now reason anchor did body cid proof false s := by
  have hlt : ¬ schemaVersion anchor < 4 := by omega
  cases reason with
  | recovery => simp only [dispatch, dispatchRecovery, hlt, false_and]
  | _ => rfl

theorem submit_code_blind (E : Env) (now : Time) (proof : Json) (s : Relay)
    (h4 : 4 ≤ schemaVersion anchor) :
    submit E now anchor ⟨proof, true⟩ s = submit E now anchor ⟨proof, false⟩ s := by
  unfold submit
  split
  · rfl
  split
  · rfl
  split
  · rfl
  split
  · rfl
  split
  · rfl
  exact dispatch_code_blind E now h4 ..

/-! ### What the rows of a DID have in common -/

/-- The commitment of a row, in its normative form. -/
def commitmentOf (x : IdentityAnchor) : Json :=
  DidElix.canonicalCommitment (x.genesisCommitment.getD .null)

/-- Two rows of one DID agree on being of version 4 and then on the commitment; only one of
them is a genesis. -/
structure Agree (x y : IdentityAnchor) : Prop where
  version : 4 ≤ x.schemaVersion ↔ 4 ≤ y.schemaVersion
  commitment : 4 ≤ x.schemaVersion → commitmentOf x = commitmentOf y
  genesis : x.reason = .initial → y.reason = .initial → x.content = y.content

theorem Agree.symm {y : IdentityAnchor} (h : Agree x y) : Agree y x :=
  ⟨h.version.symm, fun h4 => (h.commitment (h.version.2 h4)).symm,
    fun hy hx => (h.genesis hx hy).symm⟩

theorem Agree.refl (x : IdentityAnchor) : Agree x x := ⟨Iff.rfl, fun _ => rfl, fun _ _ => rfl⟩

theorem Agree.trans_of_ne {y z : IdentityAnchor} (h : Agree x y) (h' : Agree y z)
    (hx : x.reason ≠ .initial) : Agree x z :=
  ⟨h.version.trans h'.version,
    fun h4 => (h.commitment h4).trans (h'.commitment (h.version.1 h4)),
    fun hi => absurd hi hx⟩

theorem agree_content {y : IdentityAnchor} : Agree x.content y.content ↔ Agree x y :=
  ⟨fun h => ⟨h.version, h.commitment, h.genesis⟩, fun h => ⟨h.version, h.commitment, h.genesis⟩⟩

/-- The row commits to the key material its DID is derived from. -/
def Derived (P : Platform) (x : IdentityAnchor) : Prop :=
  4 ≤ x.schemaVersion → DidElix.matchesV1 P x.did (x.genesisCommitment.getD .null) = true

theorem derived_content :
    Derived P x.content ↔ Derived P x := Iff.rfl

/-- The rows of a DID agree, and their commitments derive it. -/
structure Consistent (P : Platform) (rows : List IdentityAnchor) : Prop where
  agree : ∀ x ∈ rows, ∀ y ∈ rows, x.did = y.did → Agree x y
  derived : ∀ x ∈ rows, Derived P x

theorem Consistent.evolved {rows' : List IdentityAnchor} (h : Consistent P rows)
    (he : Evolved rows rows') : Consistent P rows' where
  agree x' hx' y' hy' hdid := by
    obtain ⟨x, hx, hxx⟩ := he.old x' hx'
    obtain ⟨y, hy, hyy⟩ := he.old y' hy'
    have := h.agree x hx y hy ((content_did hxx).symm.trans (hdid.trans (content_did hyy)))
    exact agree_content.1 (hxx ▸ hyy ▸ agree_content.2 this)
  derived x' hx' := by
    obtain ⟨x, hx, hxx⟩ := he.old x' hx'
    exact derived_content.1 (hxx ▸ derived_content.2 (h.derived x hx))

/-- A row that agrees with the rows of its DID. -/
theorem Consistent.append (h : Consistent P rows)
    (hagree : ∀ x ∈ rows, x.did = row.did → Agree row x) (hderived : Derived P row) :
    Consistent P (rows ++ [row]) where
  agree x hx y hy hdid := by
    rw [List.mem_append, List.mem_singleton] at hx hy
    rcases hx with hx | rfl <;> rcases hy with hy | rfl
    · exact h.agree x hx y hy hdid
    · exact (hagree x hx hdid).symm
    · exact hagree y hy hdid.symm
    · exact .refl _
  derived x hx := by
    rw [List.mem_append, List.mem_singleton] at hx
    rcases hx with hx | rfl
    · exact h.derived x hx
    · exact hderived

theorem Consistent.append_successor (h : Consistent P rows) (hprev : prev ∈ rows)
    (hdid : prev.did = row.did) (hagree : Agree row prev) (hreason : row.reason ≠ .initial)
    (hderived : Derived P row) : Consistent P (rows ++ [row]) :=
  h.append (fun x hx hxd =>
    hagree.trans_of_ne (h.agree prev hprev x hx (hdid.trans hxd.symm)) hreason) hderived

/-- A DID that has rows has an active one. -/
def Occupied (rows : List IdentityAnchor) : Prop :=
  ∀ x ∈ rows, ∃ a ∈ rows, a.did = x.did ∧ a.state = .active

structure Ledger (P : Platform) (rows : List IdentityAnchor) : Prop extends Consistent P rows where
  occupied : Occupied rows

/-! ### A DID that has rows keeps an active one -/

theorem Occupied.append_active
    (h : ∀ x ∈ rows, x.did ≠ row.did → ∃ a ∈ rows, a.did = x.did ∧ a.state = .active)
    (hrow : row.state = .active) : Occupied (rows ++ [row]) := by
  intro x hx
  by_cases hd : x.did = row.did
  · exact ⟨row, by simp, hd.symm, hrow⟩
  · rw [List.mem_append, List.mem_singleton] at hx
    rcases hx with hx | rfl
    · obtain ⟨a, ha, hax⟩ := h x hx hd
      exact ⟨a, List.mem_append_left _ ha, hax⟩
    · exact absurd rfl hd

theorem Occupied.superseding_append (h : Occupied s.identityAnchors.rows)
    (hactive : s.activeAnchor row.did = some prev) (hrow : row.state = .active) :
    Occupied (superseding row.did prev.anchorCid s.identityAnchors.rows ++ [row]) := by
  obtain ⟨hR, hd, -⟩ := AnchorTable.activeAnchor_eq_some.1 hactive
  refine .append_active (fun x hx hxd => ?_) hrow
  obtain ⟨y, hy, hyx⟩ := (evolved_superseding row.did prev.anchorCid _).old x hx
  obtain ⟨a, ha, had, hast⟩ := h y hy
  have had : a.did = x.did := had.trans (content_did hyx).symm
  refine ⟨a, ?_, had, hast⟩
  rw [← hd, mem_superseding hR]
  refine .inr ⟨ha, ?_⟩
  rintro rfl
  exact hxd (had.symm.trans hd)

theorem Occupied.promoteOne {r : IdentityAnchor} (h : Occupied s.identityAnchors.rows) :
    Occupied (AnchorStore.promoteOne E now r s).identityAnchors.rows := by
  have he := (promoteOne_evolved E now r s).2
  unfold AnchorStore.promoteOne at he ⊢
  split
  · exact h
  next t row ht =>
  rw [ht] at he
  dsimp only at he
  rw [(syncCache_core E now row { s with identityAnchors := t }).anchors] at he ⊢
  simp only [promoteRow, Option.bind_eq_bind, Option.bind_eq_some_iff, Option.pure_def,
    Option.some.injEq, Prod.mk.injEq] at ht
  obtain ⟨t₁, ht₁, t₂, ht₂, n, hn, rfl, -⟩ := ht
  intro x hx
  dsimp only at hx he ⊢
  by_cases hd : x.did = r.did
  · -- the row that is promoted is active
    obtain ⟨y, hy, hyn⟩ := (Table.mem_update ht₂).1 (Table.mem_of_find hn)
    have hkey := Table.prop_of_find hn
    have hyr : y.hasKey r.did r.anchorCid = true := by
      rw [← hyn] at hkey
      split at hkey
      · assumption
      · exact hkey
    rw [if_pos hyr] at hyn
    refine ⟨n, Table.mem_of_find hn, ?_, ?_⟩
    · simp only [IdentityAnchor.hasKey, Bool.and_eq_true, beq_iff_eq] at hkey
      rw [hkey.1, hd]
    · rw [← hyn]
      rfl
  · obtain ⟨z, hz, hzx⟩ := he.old x hx
    obtain ⟨a, ha, had, hast⟩ := h z hz
    have had : a.did = x.did := had.trans (content_did hzx).symm
    have hne : ¬ a.did = r.did := fun h => hd (had.symm.trans h)
    refine ⟨a, (Table.mem_update ht₂).2 ⟨a, (Table.mem_update ht₁).2 ⟨a, ha, ?_⟩, ?_⟩, had, hast⟩
    · simp [hne]
    · simp [IdentityAnchor.hasKey, hne]

theorem Occupied.promoteDue (h : Occupied s.identityAnchors.rows) :
    Occupied (AnchorStore.promoteDue E now s).identityAnchors.rows := by
  unfold AnchorStore.promoteDue
  induction promotable now s generalizing s with
  | nil => exact h
  | cons r l ih => exact ih h.promoteOne

theorem Occupied.veto {did cid sig : String} (h : Occupied s.identityAnchors.rows) :
    Occupied (AnchorStore.veto P did cid sig s).2.identityAnchors.rows := by
  have he := veto_evolved P did cid sig s
  unfold AnchorStore.veto at he ⊢
  split
  · exact h
  next r hr =>
  rw [hr] at he
  have hread := readVeto_eq_ok hr
  rcases doVeto_spec hread.mem with hs | ⟨-, hmem⟩
  · dsimp only
    rwa [hs]
  · intro x hx
    obtain ⟨y, hy, hyx⟩ := he.old x hx
    obtain ⟨a, ha, had, hast⟩ := h y hy
    refine ⟨a, (hmem a).2 (.inr ⟨ha, ?_⟩), had.trans (content_did hyx).symm, hast⟩
    rintro rfl
    rw [hread.pending] at hast
    cases hast

/-! ### The ledger along a run -/

theorem canonicalCommitment_of_eqv {c d : Json} (hc : DidElix.validateV1Commitment c = true)
    (h : c.eqv d = true) : DidElix.canonicalCommitment c = DidElix.canonicalCommitment d := by
  obtain ⟨key, nonce, hkey, -, hnonce, -⟩ := DidElix.fetch_of_validate hc
  have hobj := DidElix.isObj_of_validate hc
  cases c with
  | obj f =>
    cases d with
    | obj g =>
      rw [Json.eqv, Bool.and_eq_true] at h
      have hfetch : ∀ {k v : String}, (Json.obj f).fetch k = .str v →
          (Json.obj g).fetch k = .str v := by
        intro k v hk
        have hl : f.lookup k = some (.str v) := by
          cases hl : f.lookup k with
          | none => simp [Json.fetch, Json.get?, hl] at hk
          | some w => rw [show w = .str v by simpa [Json.fetch, Json.get?, hl] using hk]
        obtain ⟨w, hw, hvw⟩ := Json.eqvFields_lookup h.2 hl
        rw [Json.fetch, Json.get?, hw, Option.getD_some, Json.eqv_str_left.1 hvw]
      simp only [DidElix.canonicalCommitment, hkey, hnonce, hfetch hkey, hfetch hnonce]
    | _ => simp [Json.eqv] at h
  | _ => simp [Json.isObj] at hobj

theorem Accepted.derived (h : Accepted E anchor opts s row) : Derived E.toPlatform row := by
  intro h4
  rw [h.version] at h4
  rw [h.commitment_eq h4]
  exact (validateProtocol_eq_ok h.protocol).matchesDid h4

theorem Accepted.agree (h : Accepted E anchor opts s row) (hreason : row.reason ≠ .initial)
    (hactive : s.activeAnchor row.did = some prev) (hprev : Derived E.toPlatform prev) :
    Agree row prev := by
  have hc := h.commitmentContinues hreason hactive
  unfold v1CommitmentContinues at hc
  refine ⟨?_, fun h4 => ?_, fun hi => absurd hi hreason⟩
  · split at hc
    · simp only [Bool.and_eq_true, beq_iff_eq] at hc
      omega
    · simp only [decide_eq_true_eq] at hc
      omega
  · split at hc
    · next hp4 =>
      simp only [Bool.and_eq_true] at hc
      exact (canonicalCommitment_of_eqv (DidElix.matchesV1_iff.1 (hprev hp4)).1 hc.1.2).symm
    · simp only [decide_eq_true_eq] at hc
      omega

/-- **A submission keeps the ledger.** -/
theorem Ledger.submit (h : Ledger E.toPlatform s.identityAnchors.rows) :
    Ledger E.toPlatform (AnchorStore.submit E now anchor opts s).2.identityAnchors.rows := by
  rcases submit_cases E now anchor opts s with ⟨_, -, hs⟩ | ⟨row, -, -, -, hacc, hent⟩
  · rw [hs]
    exact h
  generalize (AnchorStore.submit E now anchor opts s).2.identityAnchors.rows = rows at hent ⊢
  have hswap : ∀ {prev}, row.reason ≠ .initial → s.activeAnchor row.did = some prev →
      row.state = .active → Ledger E.toPlatform
        (superseding row.did prev.anchorCid s.identityAnchors.rows ++ [row]) := by
    intro prev hr hp hst
    obtain ⟨hR, hd, -⟩ := AnchorTable.activeAnchor_eq_some.1 hp
    have he := evolved_superseding row.did prev.anchorCid s.identityAnchors.rows
    refine ⟨?_, h.occupied.superseding_append hp hst⟩
    have hmem : prev.withState .superseded ∈
        superseding row.did prev.anchorCid s.identityAnchors.rows :=
      hd ▸ (mem_superseding hR).2 (.inl rfl)
    exact (h.toConsistent.evolved he).append_successor hmem hd
      (agree_content.1 (agree_content.2 (hacc.agree hr hp (h.derived prev hR)) :)) hr hacc.derived
  cases hent with
  | initial _ _ _ hnone hst =>
    have hfresh : ∀ x ∈ s.identityAnchors.rows, x.did ≠ row.did := by
      intro x hx hxd
      obtain ⟨a, ha, had, hast⟩ := h.occupied x hx
      exact AnchorTable.activeAnchor_eq_none.1 hnone a ha (had.trans hxd) hast
    exact ⟨h.toConsistent.append (fun x hx hxd => absurd hxd (hfresh x hx)) hacc.derived,
      .append_active (fun x hx _ => h.occupied x hx) hst⟩
  | rotation hr hp _ _ _ hst => exact hswap (by simp [hr]) hp hst
  | deviceChange hr hp _ _ _ _ hst => exact hswap (by simp [hr]) hp hst
  | recovery hr hp =>
    obtain ⟨hR, hd, hast⟩ := AnchorTable.activeAnchor_eq_some.1 hp
    have hr' : row.reason ≠ .initial := by simp [hr]
    refine ⟨h.toConsistent.append_successor hR hd (hacc.agree hr' hp (h.derived _ hR)) hr'
      hacc.derived, fun x hx => ?_⟩
    rcases List.mem_append.1 hx with hx | hx
    · obtain ⟨a, ha, hax⟩ := h.occupied x hx
      exact ⟨a, List.mem_append_left _ ha, hax⟩
    · obtain rfl := List.mem_singleton.1 hx
      exact ⟨_, List.mem_append_left _ hR, hd, hast⟩

/-- **Every call of the store keeps the ledger.** -/
theorem Ledger.step (s : Relay) (act : AnchorAction)
    (h : Ledger E.toPlatform s.identityAnchors.rows) :
    Ledger E.toPlatform (anchorStep E s act).identityAnchors.rows := by
  cases act with
  | submit now anchor opts => exact h.submit
  | promoteDue now =>
    exact ⟨h.toConsistent.evolved (promoteDue_evolved E now s), h.occupied.promoteDue⟩
  | veto did cid sig =>
    exact ⟨h.toConsistent.evolved (veto_evolved E.toPlatform did cid sig s), h.occupied.veto⟩

theorem ledger_of_empty (h : s.identityAnchors.rows = []) : Ledger P s.identityAnchors.rows := by
  rw [h]
  exact ⟨⟨by simp, by simp⟩, by simp [Occupied]⟩

/-! ### Every row has a submission, and keeps its content -/

theorem step_keeps (E : Env) (s : Relay) (act : AnchorAction) :
    ∀ x ∈ s.identityAnchors.rows, ∃ y ∈ (anchorStep E s act).identityAnchors.rows,
      y.content = x.content := by
  cases act with
  | promoteDue now => exact (promoteDue_evolved E now s).kept
  | veto did cid sig => exact (veto_evolved E.toPlatform did cid sig s).kept
  | submit now anchor opts =>
    intro x hx
    rcases submit_cases E now anchor opts s with ⟨_, -, hs⟩ | ⟨row, -, -, -, -, hent⟩
    · exact ⟨x, by rwa [anchorStep, hs], rfl⟩
    · rw [anchorStep]
      generalize (AnchorStore.submit E now anchor opts s).2.identityAnchors.rows = rows at hent ⊢
      cases hent with
      | initial | recovery => exact ⟨x, List.mem_append_left _ hx, rfl⟩
      | rotation | deviceChange =>
        obtain ⟨y, hy, hyx⟩ := (evolved_superseding row.did _ s.identityAnchors.rows).kept x hx
        exact ⟨y, List.mem_append_left _ hy, hyx⟩

theorem exec_keeps (acts : List AnchorAction) (hx : x ∈ s.identityAnchors.rows) :
    ∃ y ∈ (exec (anchorStep E) s acts).identityAnchors.rows, y.content = x.content :=
  exec_invariant (I := fun s : Relay => ∃ y ∈ s.identityAnchors.rows, y.content = x.content)
    (fun s act ⟨y, hy, hyx⟩ => by
      obtain ⟨z, hz, hzy⟩ := step_keeps E s act y hy
      exact ⟨z, hz, hzy.trans hyx⟩) ⟨x, hx, rfl⟩ acts

/-- **In every run of calls that do not overlap a DID that has anchors has one active anchor**,
through all promotions, vetoes and freezes: a call here takes effect as a whole. -/
theorem one_active_anchor (E : Env) (acts : List AnchorAction) :
    let rows := (exec (anchorStep E) Relay.empty acts).identityAnchors.rows
    Occupied rows ∧ UniqueOn (·.did) IdentityAnchor.isActive rows :=
  have hledger := exec_invariant (I := fun s => Ledger E.toPlatform s.identityAnchors.rows)
    (fun s act h => h.step s act) (ledger_of_empty rfl) acts
  ⟨hledger.occupied,
    (exec (anchorStep E) Relay.empty acts).identityAnchors.valid.one_active_per_did⟩

/-! ### Authority over a run -/

/-- The authority of key changes over the run `acts` from `s₀`. -/
structure Authority (E : Env) (s₀ : Relay) (acts : List AnchorAction) : Prop where
  /-- Every row of version 4 after the genesis, the activated ones among them, was accepted by
  a submission that the anchor active at that moment authorised; what is signed names the
  key. -/
  authorized : ∀ x ∈ (exec (anchorStep E) s₀ acts).identityAnchors.rows, 4 ≤ x.schemaVersion →
    x.reason ≠ .initial → ∃ pre now anchor opts post row p,
      acts = pre ++ .submit now anchor opts :: post ∧
      (submit E now anchor opts (exec (anchorStep E) s₀ pre)).1 = .ok row ∧
      row.content = x.content ∧ x.canonicalBody = canonicalBody anchor ∧
      anchor.fetch "identity_key" = .str x.identityKey ∧
      (exec (anchorStep E) s₀ pre).activeAnchor x.did = some p ∧ AuthorizedBy E.toPlatform p x
  /-- A DID has one genesis. -/
  genesis : ∀ x ∈ (exec (anchorStep E) s₀ acts).identityAnchors.rows,
    ∀ y ∈ (exec (anchorStep E) s₀ acts).identityAnchors.rows, x.did = y.did →
      x.reason = .initial → y.reason = .initial → x = y
  /-- For an anchor of version 4 a recovery code makes no difference. -/
  codeBlind : ∀ now anchor proof, 4 ≤ schemaVersion anchor →
    submit E now anchor ⟨proof, true⟩ (exec (anchorStep E) s₀ acts)
      = submit E now anchor ⟨proof, false⟩ (exec (anchorStep E) s₀ acts)
  /-- The commitment that the DID is derived from is that of all its anchors. -/
  commitment : ∀ x ∈ (exec (anchorStep E) s₀ acts).identityAnchors.rows, 4 ≤ x.schemaVersion →
    DidElix.matchesV1 E.toPlatform x.did (x.genesisCommitment.getD .null) = true ∧
      ∀ y ∈ (exec (anchorStep E) s₀ acts).identityAnchors.rows, y.did = x.did →
        commitmentOf y = commitmentOf x
  /-- Once the active anchor is of version 4, no anchor of its DID is of a lower one. -/
  noDowngrade : ∀ pre post a, acts = pre ++ post →
    (exec (anchorStep E) s₀ pre).activeAnchor a.did = some a → 4 ≤ a.schemaVersion →
    ∀ y ∈ (exec (anchorStep E) s₀ acts).identityAnchors.rows, y.did = a.did → 4 ≤ y.schemaVersion

theorem authorizedBy_content {p : IdentityAnchor} (h : AuthorizedBy P p row)
    (hx : row.content = x.content) : AuthorizedBy P p x := by
  have hbody : row.canonicalBody = x.canonicalBody := (congrArg IdentityAnchor.canonicalBody hx :)
  have hreason : row.reason = x.reason := (congrArg IdentityAnchor.reason hx :)
  unfold AuthorizedBy at h ⊢
  rwa [← hbody, ← hreason]

/-- **In every run key changes of version 4 are authorised by the anchor that was active**, a
recovery code counts for nothing, and neither the commitment nor the version changes.  Every row
was once accepted by `submit`, which has checked the proof for it; later steps change states, and
not what was signed. -/
theorem key_changes_authorized (E : Env) {s₀ : Relay} (h₀ : s₀.identityAnchors.rows = [])
    (acts : List AnchorAction) : Authority E s₀ acts := by
  have hledger : Ledger E.toPlatform (exec (anchorStep E) s₀ acts).identityAnchors.rows :=
    exec_invariant (I := fun s => Ledger E.toPlatform s.identityAnchors.rows)
      (fun s act h => h.step s act) (ledger_of_empty h₀) acts
  refine ⟨fun x hx h4 hreason => ?_, fun x hx y hy hdid hxi hyi => ?_, fun now anchor proof h4 =>
    submit_code_blind E now proof _ h4, fun x hx h4 => ⟨hledger.derived x hx h4, ?_⟩, ?_⟩
  · obtain ⟨pre, now, anchor, opts, post, row, rfl, hsub, hrow⟩ := exists_submission h₀ hx
    have hversion : row.schemaVersion = x.schemaVersion :=
      (congrArg IdentityAnchor.schemaVersion hrow :)
    have hreason' : row.reason = x.reason := (congrArg IdentityAnchor.reason hrow :)
    obtain ⟨p, hp, hauth⟩ := hsub.authorized (hversion ▸ h4) (hreason' ▸ hreason)
    have hbody : row.canonicalBody = x.canonicalBody :=
      (congrArg IdentityAnchor.canonicalBody hrow :)
    have hkey : row.identityKey = x.identityKey := (congrArg IdentityAnchor.identityKey hrow :)
    exact ⟨pre, now, anchor, opts, post, row, p, rfl, hsub.ok, hrow,
      hbody ▸ hsub.accepted.body, hkey ▸ hsub.accepted.identityKey, content_did hrow ▸ hp,
      authorizedBy_content hauth hrow⟩
  · exact eq_of_content hx hy ((hledger.agree x hx y hy hdid).genesis hxi hyi)
  · intro y hy hyd
    exact ((hledger.agree x hx y hy hyd.symm).commitment h4).symm
  · rintro pre post a rfl ha h4 y hy hyd
    rw [exec_append] at hy hledger
    obtain ⟨b, hb, hba⟩ := exec_keeps post (AnchorTable.activeAnchor_eq_some.1 ha).1
    have hversion : b.schemaVersion = a.schemaVersion :=
      (congrArg IdentityAnchor.schemaVersion hba :)
    have hagree := hledger.agree b hb y hy ((content_did hba).trans hyd.symm)
    exact hagree.version.1 (hversion ▸ h4)

def toyCommitment : Json :=
  .obj [("method", .str "did:elix"), ("method_version", .int 1),
    ("genesis_key", .str (toyKeyHex 1)),
    ("genesis_nonce", .str (String.ofList (List.replicate 64 '0')))]

/-- An anchor of version 4 of the DID that the commitment derives. -/
def toyAnchorV1 (n : UInt8) (prev : Json) (reason createdAt : String) : Json :=
  .obj [("type", .str anchorType), ("schema_version", .int 4),
    ("did", .str ((DidElix.deriveV1 .toy toyCommitment).getD "")), ("handle", .str "alice"),
    ("identity_key", .str (toyKeyHex n)), ("identity_key_algorithm", .str "p256-sha256"),
    ("genesis_commitment", toyCommitment), ("prev_anchor_cid", prev), ("reason", .str reason),
    ("created_at", .str createdAt)]

def toyGenesisV1 : Json := toySigned 1 1 (toyAnchorV1 1 .null "initial" "2026-01-01T00:00:00.000Z")

def toyRecoveryV1 : Json :=
  toySigned 2 1 (toyAnchorV1 2 (toyCid toyGenesisV1) "recovery" "2026-01-02T00:00:00.000Z")

/-- The genesis key authorises the recovery by another key, which is promoted. -/
def recoveredRunV1 : List AnchorAction :=
  [.submit 0 toyGenesisV1 {}, .submit 0 toyRecoveryV1 {}, .promoteDue (seconds 259200)]

theorem key_changes_authorized_recovered : Authority .toy Relay.empty recoveredRunV1 ∧
    (exec (anchorStep .toy) Relay.empty recoveredRunV1).identityAnchors.rows.map
      (fun x => (x.identityKey, x.state))
        = [(toyKeyHex 1, .superseded), (toyKeyHex 2, .active)] :=
  ⟨key_changes_authorized .toy rfl _, by decide +kernel⟩

end AnchorStore

end Ansible
