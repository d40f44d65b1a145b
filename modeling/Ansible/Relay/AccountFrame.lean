import Ansible.Relay.KeyVersions

/-!
# What a key change leaves as it is

An anchor that becomes active refreshes the account of its DID.  The refresh is a general write of
an account: whatever it is not told comes from the defaults of that write, and the index of handles
is written before the database is asked.

## Main results

* `AnchorStore.keepsStanding_iff` — **a key change touches only the key exactly when the account is
  already as the refresh writes it**, and the handles that it claims are those of the DID.
-/

namespace Ansible

/-- What an account has besides its key. -/
structure Standing where
  reputationTier : String
  expiresAt : Time
  pdsEndpoint : String
  handle : String
  deriving DecidableEq, Repr

def AccountEntry.standing (e : AccountEntry) : Standing :=
  ⟨e.reputationTier, e.expiresAt, e.pdsEndpoint, e.handle⟩

def DidAccount.standing (a : DidAccount) : Standing :=
  ⟨a.reputationTier, a.expiresAt, a.pdsEndpoint, a.handle⟩

namespace AnchorStore

/-- An accepted rotation or device change, or the promotion of a recovery: the anchor that is then
active, and the state afterwards. -/
inductive KeyChange (E : Env) (now : Time) (s : Relay) : IdentityAnchor → Relay → Prop
  | submitted {anchor : Json} {opts : SubmitOpts} {row : IdentityAnchor} {t : Relay}
    (h : submit E now anchor opts s = (.ok row, t))
    (hreason : row.reason = .rotation ∨ row.reason = .deviceChange) : KeyChange E now s row t
  | promoted {pending row : IdentityAnchor} {anchors : AnchorTable}
    (h : promoteRow pending s.identityAnchors = some (anchors, row)) :
    KeyChange E now s row (promoteOne E now pending s)

/-- Only the key of the account has changed, and the index is as it was for all others. -/
structure KeepsStanding (did : String) (s t : Relay) : Prop where
  account : ∀ e, (DidAccountCache.get did s).1 = some e →
    ∃ e', (DidAccountCache.get did t).1 = some e' ∧ e'.standing = e.standing
  stored : ∀ a ∈ s.didAccounts.rows, a.did = did →
    ∃ a' ∈ t.didAccounts.rows, a'.did = did ∧ a'.standing = a.standing
  index : ∀ handle other, other ≠ did →
    (t.handleIndex handle = some other ↔ s.handleIndex handle = some other)

/-- What a refresh writes besides the key. -/
def written (E : Env) (now : Time) (row : IdentityAnchor) : Standing where
  reputationTier := "basic"
  expiresAt := now + seconds E.didAccountCacheTtlSeconds
  pdsEndpoint := "https://elix.cool"
  handle := row.handle

/-- The handle of the account that the database has for a DID. -/
def storedHandle (did : String) (s : Relay) : Option String :=
  match s.didAccounts.find (·.did == did) with
  | some a => some a.handle
  | none =>
    (s.didElixMigrations.find (·.v1Did == did)).bind fun m =>
      (s.didAccounts.find (·.did == m.legacyDid)).map (·.handle)

/-- The handle that a lookup enters into the index, which is none when the account is cached. -/
def readHandle (did : String) (s : Relay) : Option String :=
  match s.didAccountCache did with
  | some _ => none
  | none => storedHandle did s

/-- The handles that a refresh enters into the index: that of the anchor, and that of the account
when it has to be read. -/
def claimed (row : IdentityAnchor) (s : Relay) : List String :=
  row.handle :: (readHandle row.did s).toList

/-- The database takes the row of the refresh. -/
def Taken (E : Env) (now : Time) (row : IdentityAnchor) (s : Relay) : Prop :=
  E.persistDidAccounts = true ∧
    (DidAccountCache.writeThrough s.didAccounts (DidAccountCache.accountOf E now row.did
      row.identityKey row.handle (syncOpts row s))).isSome = true

/-- The account is already as the refresh writes it, and the handles that the refresh claims are
free or those of the DID. -/
structure AsWritten (E : Env) (now : Time) (row : IdentityAnchor) (s : Relay) : Prop where
  account : ∀ e, (DidAccountCache.get row.did s).1 = some e → e.standing = written E now row
  stored : Taken E now row s → ∀ a ∈ s.didAccounts.rows, a.did = row.did →
    a.standing = written E now row
  index : ∀ handle ∈ claimed row s, ∀ other, s.handleIndex handle = some other → other = row.did

/-! ### Every key change is a refresh -/

variable {E : Env} {now : Time} {s : Relay} {row : IdentityAnchor} {a : DidAccount}

theorem submit_refreshes {anchor : Json} {opts : SubmitOpts} {t : Relay}
    (h : submit E now anchor opts s = (.ok row, t))
    (hreason : row.reason = .rotation ∨ row.reason = .deviceChange) :
    ∃ anchors, anchors.activeAnchor row.did = some row ∧
      t = syncCache E now row { s with identityAnchors := anchors } := by
  have hwritten := submit_written E now anchor opts s
  have hcases := submit_cases E now anchor opts s
  rw [h] at hwritten hcases
  obtain ⟨_, herror, -⟩ | ⟨row', hok, -, -, -, hentered⟩ := hcases
  · cases herror
  cases hok
  rcases hentered.activeAnchor with ⟨-, hactivates⟩ | ⟨hpending, -⟩
  · cases hwritten with
    | pending row t hstate =>
      have hself := hactivates.self
      rw [AnchorTable.activeAnchor_eq_some, hstate] at hself
      cases hself.2.2
    | active row anchors hstate =>
      refine ⟨anchors, ?_, rfl⟩
      have hsame := (syncCache_core E now row { s with identityAnchors := anchors }).anchors
      have hself := hactivates.self
      dsimp only at hsame hself
      rwa [hsame] at hself
  · generalize t.identityAnchors.rows = rows at hentered
    cases hentered with
    | initial hr => rw [hr] at hreason; rcases hreason with hr | hr <;> cases hr
    | rotation _ _ _ _ _ hstate => rw [hstate] at hpending; cases hpending
    | deviceChange _ _ _ _ _ _ hstate => rw [hstate] at hpending; cases hpending
    | recovery hr => rw [hr] at hreason; rcases hreason with hr | hr <;> cases hr

theorem KeyChange.refreshes {t : Relay} (h : KeyChange E now s row t) :
    ∃ anchors, anchors.activeAnchor row.did = some row ∧
      t = syncCache E now row { s with identityAnchors := anchors } := by
  cases h with
  | submitted h hreason => exact submit_refreshes h hreason
  | @promoted pending row anchors h =>
    obtain ⟨-, -, -, hactivates⟩ := activates_of_promoteRow h
    refine ⟨anchors, hactivates.self, ?_⟩
    rw [promoteOne, h]

/-! ### The state after a refresh -/

theorem get_of_stored (ha : a ∈ s.didAccounts.rows) (anchors : AnchorTable) :
    (DidAccountCache.get a.did { s with identityAnchors := anchors }).1
      = (DidAccountCache.get a.did s).1 := by
  unfold DidAccountCache.get
  dsimp only
  cases s.didAccountCache a.did with
  | some e => rfl
  | none =>
    have hafter := getFromDb_of_mem (s := { s with identityAnchors := anchors }) ha
    exact hafter.trans (getFromDb_of_mem ha).symm

/-- A lookup enters the handle that it reads into the index, and none when it reads none. -/
theorem handleIndex_get (hactive : s.activeAnchor row.did = some row) :
    (DidAccountCache.get row.did s).2.handleIndex =
      (readHandle row.did s).elim s.handleIndex fun h => s.handleIndex.insert h row.did := by
  unfold DidAccountCache.get readHandle
  cases s.didAccountCache row.did with
  | some e => rfl
  | none =>
    dsimp only
    unfold DidAccountCache.getFromDb storedHandle
    cases s.didAccounts.find (·.did == row.did) with
    | some a => rfl
    | none =>
      dsimp only
      unfold DidAccountCache.getFromMigration
      cases s.didElixMigrations.find (·.v1Did == row.did) with
      | none => rfl
      | some m =>
        dsimp only [Option.bind_some]
        rw [hactive]
        split
        · next legacy anchor hlegacy _ =>
          rw [hlegacy]
          rfl
        · next hnone =>
          cases hlegacy : s.didAccounts.find (·.did == m.legacyDid) with
          | none => rfl
          | some legacy => exact (hnone legacy row hlegacy rfl).elim

/-- The index after a refresh: the handles that it claims are those of the DID. -/
theorem handleIndex_syncCache (hactive : s.activeAnchor row.did = some row) (x : String) :
    (syncCache E now row s).handleIndex x =
      if x ∈ claimed row s then some row.did else s.handleIndex x := by
  rw [syncCache_eq]
  obtain ⟨entry, heq⟩ := DidAccountCache.put_eq E now row.did row.identityKey row.handle
    (syncOpts row s) (synced row s)
  rw [heq]
  dsimp only
  rw [Ets.insert, synced, handleIndex_get hactive, claimed]
  by_cases hx : x = row.handle
  · rw [if_pos hx, if_pos (hx ▸ List.mem_cons_self)]
  · rw [if_neg hx]
    cases readHandle row.did s with
    | none => simp [hx]
    | some h => simp [hx, Ets.insert]

/-- After a refresh the account is as the refresh writes it, whether or not the database took it. -/
theorem account_syncCache (E : Env) (now : Time) (row : IdentityAnchor) (s : Relay) :
    ∃ e, (DidAccountCache.get row.did (syncCache E now row s)).1 = some e ∧
      e.standing = written E now row := by
  rw [syncCache_eq]
  generalize synced row s = u
  have hput : ∃ e, e.standing = written E now row ∧
      (DidAccountCache.put E now row.did row.identityKey row.handle (syncOpts row s)
        u).2.didAccountCache row.did = some e := by
    unfold DidAccountCache.put
    dsimp only
    split
    · split <;> exact ⟨_, rfl, Ets.insert_self ..⟩
    · exact ⟨_, rfl, Ets.insert_self ..⟩
  obtain ⟨e, hstanding, hcached⟩ := hput
  refine ⟨e, ?_, hstanding⟩
  rw [DidAccountCache.get, hcached]

/-- The accounts after a refresh. -/
theorem didAccounts_syncCache (E : Env) (now : Time) (row : IdentityAnchor) (s : Relay) :
    (syncCache E now row s).didAccounts = if E.persistDidAccounts then
      (DidAccountCache.writeThrough s.didAccounts (DidAccountCache.accountOf E now row.did
        row.identityKey row.handle (syncOpts row s))).getD s.didAccounts
      else s.didAccounts := by
  rw [syncCache_eq]
  obtain ⟨entry, heq⟩ := DidAccountCache.put_eq E now row.did row.identityKey row.handle
    (syncOpts row s) (synced row s)
  rw [heq]
  dsimp only
  rw [synced, get_rows]

theorem stored_of_taken (h : Taken E now row s) (hdid : a.did = row.did) :
    a ∈ (syncCache E now row s).didAccounts.rows ↔
      a = DidAccountCache.accountOf E now row.did row.identityKey row.handle (syncOpts row s) := by
  obtain ⟨t, ht⟩ := Option.isSome_iff_exists.1 h.2
  rw [didAccounts_syncCache, if_pos h.1, ht, Option.getD_some, DidAccountCache.mem_writeThrough ht]
  exact or_iff_left fun hother => hother.2 hdid

theorem didAccounts_of_not_taken (h : ¬ Taken E now row s) :
    (syncCache E now row s).didAccounts = s.didAccounts := by
  rw [didAccounts_syncCache]
  split
  · next hpersist =>
    cases ht : DidAccountCache.writeThrough s.didAccounts (DidAccountCache.accountOf E now row.did
        row.identityKey row.handle (syncOpts row s)) with
    | none => rfl
    | some t => exact absurd ⟨hpersist, by rw [ht]; rfl⟩ h
  · rfl

/-! ### When only the key changes -/

/-- Whether the database takes the row of a stored account does not depend on the anchors. -/
theorem taken_of_stored (ha : a ∈ s.didAccounts.rows) (hdid : a.did = row.did)
    (anchors : AnchorTable) :
    Taken E now row { s with identityAnchors := anchors } ↔ Taken E now row s := by
  have hopts : syncOpts row { s with identityAnchors := anchors } = syncOpts row s := by
    unfold syncOpts
    rw [← hdid, get_of_stored ha]
  rw [Taken, Taken, hopts]

/-- **A key change touches only the key exactly when the account is already as the refresh writes
it**, in the cache and, unless the database refuses the row, in the database, and no other DID has
a handle that the refresh claims. -/
theorem keepsStanding_iff {E : Env} {now : Time} {s t : Relay} {row : IdentityAnchor}
    (h : KeyChange E now s row t) : KeepsStanding row.did s t ↔ AsWritten E now row s := by
  obtain ⟨anchors, hactive, rfl⟩ := h.refreshes
  have haccount := account_syncCache E now row { s with identityAnchors := anchors }
  obtain ⟨e', he', hwritten⟩ := haccount
  have hindex : ∀ x, (syncCache E now row { s with identityAnchors := anchors }).handleIndex x
      = if x ∈ claimed row s then some row.did else s.handleIndex x :=
    handleIndex_syncCache hactive
  constructor
  · intro hkeeps
    refine ⟨fun e he => ?_, fun htaken a ha hdid => ?_, fun handle hhandle other hother => ?_⟩
    · obtain ⟨e'', he'', hsame⟩ := hkeeps.account e he
      rw [he'] at he''
      cases he''
      rw [← hsame, hwritten]
    · obtain ⟨a', ha', hdid', hsame⟩ := hkeeps.stored a ha hdid
      have htaken' := (taken_of_stored ha hdid anchors).2 htaken
      obtain rfl := (stored_of_taken htaken' hdid').1 ha'
      rw [← hsame]
      rfl
    · by_contra hne
      have hkept := (hkeeps.index handle other hne).2 hother
      rw [hindex, if_pos hhandle] at hkept
      exact hne (Option.some.inj hkept).symm
  · intro has
    refine ⟨fun e he => ⟨e', he', hwritten.trans (has.account e he).symm⟩, fun a ha hdid => ?_,
      fun handle other hne => ?_⟩
    · by_cases htaken : Taken E now row { s with identityAnchors := anchors }
      · refine ⟨_, (stored_of_taken htaken rfl).2 rfl, rfl, ?_⟩
        rw [has.stored ((taken_of_stored ha hdid anchors).1 htaken) a ha hdid]
        rfl
      · rw [didAccounts_of_not_taken htaken]
        exact ⟨a, ha, hdid, rfl⟩
    · rw [hindex]
      split
      · next hhandle =>
        constructor
        · intro hself
          exact absurd (Option.some.inj hself).symm hne
        · intro hother
          exact absurd (has.index handle hhandle other hother) hne
      · rfl

/-! ### A rotation of an account with a tier -/

/-- The anchor of Alice's account is her first one, and a presentation has raised the tier. -/
def toyRaised : Relay :=
  { Relay.empty with
    identityAnchors := (submit .toy 0 toyGenesis {} Relay.empty).2.identityAnchors
    didAccountCache := Ets.insert (fun _ => none) "did:plc:alicealice"
      ⟨toyKeyHex 1, "p256-sha256", 1, "alice.elix.cool", "verified_human", seconds 7776000,
        "https://elix.cool"⟩
    handleIndex := Ets.insert (fun _ => none) "alice.elix.cool" "did:plc:alicealice" }

theorem toyRotation_accepted : (submit .toy 0 toyRotation {} toyRaised).1.toOption.map
    (fun row => (row.reason, row.did)) = some (.rotation, "did:plc:alicealice") := by
  decide +kernel

theorem toyRotation_keyChange : ∃ row t, KeyChange .toy 0 toyRaised row t ∧
    row.did = "did:plc:alicealice" := by
  obtain ⟨row, hok, hrow⟩ := Option.map_eq_some_iff.1 toyRotation_accepted
  obtain ⟨hreason, hdid⟩ := Prod.mk.inj hrow
  generalize hsubmit : submit .toy 0 toyRotation {} toyRaised = r at hok
  obtain ⟨result, t⟩ := r
  obtain rfl : result = .ok row := ok_of_toOption hok
  exact ⟨row, _, .submitted hsubmit (.inl hreason), hdid⟩

theorem keepsStanding_iff_toy : ∃ row t, KeyChange .toy 0 toyRaised row t ∧
    (KeepsStanding row.did toyRaised t ↔ AsWritten .toy 0 row toyRaised) := by
  obtain ⟨row, t, h, -⟩ := toyRotation_keyChange
  exact ⟨row, t, h, keepsStanding_iff h⟩

/-- **A rotation resets the tier**, although the handle and everything else stays. -/
theorem rotation_resets_tier : ∃ row t, KeyChange .toy 0 toyRaised row t ∧
    ¬ KeepsStanding row.did toyRaised t := by
  obtain ⟨row, t, h, hdid⟩ := toyRotation_keyChange
  refine ⟨row, t, h, fun hkeeps => ?_⟩
  obtain ⟨anchors, -, rfl⟩ := h.refreshes
  have hcached : (DidAccountCache.get row.did toyRaised).1
      = some ⟨toyKeyHex 1, "p256-sha256", 1, "alice.elix.cool", "verified_human", seconds 7776000,
        "https://elix.cool"⟩ := by
    rw [hdid]
    rfl
  obtain ⟨e, he, hsame⟩ := hkeeps.account _ hcached
  obtain ⟨e', he', hwritten⟩ :=
    account_syncCache .toy 0 row { toyRaised with identityAnchors := anchors }
  rw [he] at he'
  cases he'
  have htier := congrArg Standing.reputationTier (hwritten.symm.trans hsame)
  exact absurd (show "basic" = "verified_human" from htier) (by decide)

end AnchorStore

end Ansible
