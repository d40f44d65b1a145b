import Ansible.Relay.WebauthnSync

/-!
# Revoked credentials

A revocation is an instant in the row of the credential.  A publication looks at it; an
authentication does not.

## Main definitions

* `WebauthnSystem`, `WebauthnStep` — the tables with the ceremonies under way.

## Main results

* `revocation_ends_iff` — **revocations end the use of credentials exactly in the runs in which
  no assertion of a revoked credential is one that verifies.**
-/

namespace Ansible

open WebauthnSync

/-! ### The system -/

/-- A ceremony whose challenge is claimed. -/
inductive CeremonyStage
  | taken
  | looked (stored : WebauthnCredential)
  | done

inductive CeremonyKind
  | authentication
  | publication (operation : Json) (operationHash : String)

structure OpenCeremony where
  kind : CeremonyKind
  did : String
  challenge : WaxChallenge
  credential : Json
  stage : CeremonyStage

inductive SyncEvent
  | revoked (credentialId : Binary)
  | authenticated (credentialId : Binary)
  | published (credentialId : Binary)
  deriving DecidableEq, Repr

/-- The tables, the ceremonies under way, and what has succeeded. -/
structure WebauthnSystem where
  store : WebauthnStore
  ceremonies : List OpenCeremony
  log : List SyncEvent

namespace WebauthnSystem

def empty : WebauthnSystem :=
  ⟨⟨Relay.empty, ⟨[], by decide⟩, ⟨[], by decide⟩⟩, [], []⟩

def withStore (s : WebauthnSystem) (store : WebauthnStore) : WebauthnSystem := { s with store }

/-- The ceremony is at another stage. -/
def atStage (s : WebauthnSystem) (n : ℕ) (c : OpenCeremony) (stage : CeremonyStage) :
    WebauthnSystem :=
  { s with ceremonies := s.ceremonies.set n { c with stage } }

end WebauthnSystem

inductive WebauthnStep
  /-- Anything that happens to identities. -/
  | relay (relay : Relay)
  | registrationOptions (now : Time) (fresh : WebauthnSync.Fresh) (did : String)
  | finishRegistration (now : Time) (did challengeId : String) (credential : Json)
      (didSignature : String) (delegation : Json)
  | authenticationOptions (now : Time) (fresh : WebauthnSync.Fresh) (did scope : String)
  | publicationOptions (now : Time) (fresh : WebauthnSync.Fresh) (did sessionId : String)
      (operation : Json) (operationHash : String)
  /-- An authentication claims its challenge. -/
  | takeAuthentication (now : Time) (did challengeId : String) (credential : Json)
      (scope : String)
  | takePublication (now : Time) (did sessionId challengeId : String) (operation : Json)
      (operationHash : String) (credential : Json)
  /-- A ceremony looks its credential up. -/
  | look (now : Time) (n : ℕ)
  /-- A ceremony verifies its assertion and ends. -/
  | finish (now : Time) (n : ℕ)
  | revoke (now : Time) (did encodedId : String) (revocation : Json) (signature : String)

/-- The ceremony opens when its challenge is claimed. -/
def opened (s : WebauthnSystem) (kind : CeremonyKind) (did : String) (credential : Json)
    (result : Except SyncError WaxChallenge × WebauthnStore) : WebauthnSystem :=
  match result with
  | (.ok challenge, store) => { s with
      store, ceremonies := s.ceremonies ++ [⟨kind, did, challenge, credential, .taken⟩] }
  | (.error _, store) => { s with store }

/-- The challenge of a publication, when it is bound to the operation. -/
def takeBound (now : Time) (did sessionId challengeId : String) (operation : Json)
    (operationHash : String) : Ceremony WaxChallenge := do
  let row ← takePublicationChallenge now challengeId did sessionId
  .lift (ensure (row.binding.any fun b => boundTo b operation operationHash)
    .operationHashMismatch)
  return row.waxChallenge

def lookCredential (W : WebauthnEnv) (now : Time) (c : OpenCeremony) (s : WebauthnStore) :
    Except SyncError WebauthnCredential :=
  match c.kind with
  | .authentication => authenticationCredential c.did c.credential s
  | .publication operation _ => publicationCredential W now c.did operation c.credential s

/-- The end of a ceremony, with the event of its success. -/
def finishCeremony (W : WebauthnEnv) (now : Time) (c : OpenCeremony)
    (stored : WebauthnCredential) (s : WebauthnStore) : List SyncEvent × WebauthnStore :=
  match c.kind with
  | .authentication =>
    match finishAuthentication W now c.did stored c.challenge c.credential s with
    | (.ok _, store) => ([.authenticated stored.credentialId], store)
    | (.error _, store) => ([], store)
  | .publication _ operationHash =>
    match finishPublication W now stored c.challenge operationHash c.credential s with
    | (.ok _, store) => ([.published stored.credentialId], store)
    | (.error _, store) => ([], store)

def webauthnStep (W : WebauthnEnv) (s : WebauthnSystem) : WebauthnStep → WebauthnSystem
  | .relay relay => s.withStore { s.store with relay }
  | .registrationOptions now fresh did =>
    s.withStore (registrationOptions now fresh did s.store).2
  | .finishRegistration now did challengeId credential didSignature delegation =>
    s.withStore
      (finishRegistration W now did challengeId credential didSignature delegation s.store).2
  | .authenticationOptions now fresh did scope =>
    s.withStore (authenticationOptions now fresh did scope s.store).2
  | .publicationOptions now fresh did sessionId operation operationHash =>
    s.withStore (publicationOptions now fresh did sessionId operation operationHash s.store).2
  | .takeAuthentication now did challengeId credential requested =>
    if requested = scope then
      opened s .authentication did credential
        (takeChallenge now challengeId did .authentication s.store)
    else s
  | .takePublication now did sessionId challengeId operation operationHash credential =>
    opened s (.publication operation operationHash) did credential
      (takeBound now did sessionId challengeId operation operationHash s.store)
  | .look now n =>
    match s.ceremonies[n]? with
    | some c =>
      match c.stage with
      | .taken =>
        match lookCredential W now c s.store with
        | .ok stored => s.atStage n c (.looked stored)
        | .error _ => s.atStage n c .done
      | _ => s
    | none => s
  | .finish now n =>
    match s.ceremonies[n]? with
    | some c =>
      match c.stage with
      | .looked stored =>
        let (events, store) := finishCeremony W now c stored s.store
        { s.atStage n c .done with store, log := s.log ++ events }
      | _ => s
    | none => s
  | .revoke now did encodedId revocation signature =>
    match revokeCredential W now did encodedId revocation signature s.store with
    | (.ok c, store) => { s with store, log := s.log ++ [.revoked c.credentialId] }
    | (.error _, store) => s.withStore store

/-! ### The law -/

/-- The event is a success of the credential. -/
def SyncEvent.Uses (id : Binary) (e : SyncEvent) : Prop :=
  e = .authenticated id ∨ e = .published id

/-- After its revocation no ceremony of a credential succeeds. -/
def RevocationEnds (log : List SyncEvent) : Prop :=
  log.Pairwise fun e e' => ∀ id, e = .revoked id → ¬ e'.Uses id

/-- The row of the credential says that it is revoked. -/
def IsRevoked (s : WebauthnStore) (id : Binary) : Prop :=
  ∃ c ∈ s.credentials.rows, c.credentialId = id ∧ c.revokedAt.isSome = true

/-- An authentication that ends with a credential which is revoked by then has an assertion that
does not verify, or a counter that is replayed. -/
def RevokedUnused (W : WebauthnEnv) (s : WebauthnSystem) : WebauthnStep → Prop
  | .finish now n => ∀ c stored, s.ceremonies[n]? = some c → c.kind = .authentication →
      c.stage = .looked stored → IsRevoked s.store stored.credentialId →
        ∀ count, assertion W now stored c.challenge c.credential .invalidAssertion ≠ .ok count
  | _ => True

/-! ### What the operations do to the tables -/

/-- The same credentials are revoked. -/
def KeepsRevoked (s t : WebauthnStore) : Prop := ∀ id, IsRevoked t id ↔ IsRevoked s id

/-- The counter of the credential has come as far as `n`. -/
def Counted (s : WebauthnStore) (id : Binary) (n : ℤ) : Prop :=
  ∃ c ∈ s.credentials.rows, c.credentialId = id ∧ n ≤ c.signCount

/-- The challenge has been claimed. -/
def Consumed (s : WebauthnStore) (id : String) : Prop :=
  ∃ r ∈ s.challenges.rows, r.challengeId = id ∧ r.consumedAt.isSome = true

/-- No credential is revoked, no counter falls back, and what has been claimed stays claimed. -/
structure Steady (s t : WebauthnStore) : Prop where
  revoked : KeepsRevoked s t
  counted : ∀ id n, Counted s id n → Counted t id n
  consumed : ∀ id, Consumed s id → Consumed t id

theorem Steady.refl (s : WebauthnStore) : Steady s s :=
  ⟨fun _ => Iff.rfl, fun _ _ h => h, fun _ h => h⟩

theorem Steady.trans (s t u : WebauthnStore) (h : Steady s t) (h' : Steady t u) : Steady s u :=
  ⟨fun id => (h'.revoked id).trans (h.revoked id),
    fun id n hn => h'.counted id n (h.counted id n hn),
    fun id hid => h'.consumed id (h.consumed id hid)⟩

variable {s t : WebauthnStore} {W : WebauthnEnv} {now : Time}

theorem steady_of_credentials (h : t.credentials = s.credentials)
    (hconsumed : ∀ id, Consumed s id → Consumed t id) : Steady s t := by
  refine ⟨fun id => ?_, fun id n hn => ?_, hconsumed⟩
  · rw [IsRevoked, IsRevoked, h]
  · rwa [Counted, h]

/-- An update that keeps the key and the revocation of each row. -/
theorem keepsRevoked_of_map {f : WebauthnCredential → WebauthnCredential}
    (hrows : t.credentials.rows = s.credentials.rows.map f)
    (hid : ∀ c, (f c).credentialId = c.credentialId)
    (hrevoked : ∀ c, (f c).revokedAt = c.revokedAt) : KeepsRevoked s t := by
  intro id
  rw [IsRevoked, IsRevoked, hrows]
  constructor
  · rintro ⟨c', hc', hcid, hcrev⟩
    obtain ⟨c, hc, rfl⟩ := List.mem_map.1 hc'
    exact ⟨c, hc, (hid c).symm.trans hcid, hrevoked c ▸ hcrev⟩
  · rintro ⟨c, hc, hcid, hcrev⟩
    exact ⟨f c, List.mem_map_of_mem hc, (hid c).trans hcid, (hrevoked c).symm ▸ hcrev⟩

abbrev Quiet {α : Type} (x : WebauthnSync.Ceremony α) : Prop := x.Keeps Steady

section Quiet

variable {α β : Type}

theorem quiet_lift (x : Except SyncError α) : Quiet (.lift x) := Checked.Keeps.lift Steady.refl x

theorem quiet_pure (a : α) : Quiet (pure a) := quiet_lift (.ok a)

theorem Quiet.bind {x : WebauthnSync.Ceremony α} {f : α → WebauthnSync.Ceremony β}
    (hx : Quiet x) (hf : ∀ a, Quiet (f a)) : Quiet (x >>= f) :=
  Checked.Keeps.bind Steady.trans hx hf

theorem Quiet.after {f : α → WebauthnSync.Ceremony β} (hf : ∀ a, Quiet (f a))
    (x : WebauthnSync.Ceremony α) (s : WebauthnStore) : Steady (x s).2 ((x >>= f) s).2 := by
  rw [Checked.bind_apply]
  generalize x s = result
  obtain ⟨e | a, t⟩ := result
  · exact .refl t
  · exact hf a t

theorem quiet_anchoredDid (now : Time) (did : String) : Quiet (anchoredDid now did) :=
  fun _ => steady_of_credentials rfl fun _ h => h

theorem quiet_verifySignature (P : Platform) (now : Time) (did : String) (message : Text)
    (signature : String) : Quiet (verifySignature P now did message signature) :=
  fun _ => steady_of_credentials rfl fun _ h => h

theorem quiet_persistChallenge (c : WebauthnChallenge) : Quiet (persistChallenge c) := by
  intro s
  unfold persistChallenge
  split
  · next challenges hinsert =>
    refine steady_of_credentials rfl fun id => ?_
    rintro ⟨r, hr, hid, hconsumed⟩
    exact ⟨r, (Table.mem_insert hinsert).2 (.inl hr), hid, hconsumed⟩
  · exact .refl s

theorem quiet_consume (now : Time) (c : WebauthnChallenge) : Quiet (consume now c) := by
  intro s
  unfold consume
  split
  · next challenges hupdate =>
    refine steady_of_credentials rfl fun id => ?_
    rintro ⟨r, hr, hid, hconsumed⟩
    refine ⟨_, (Table.mem_update hupdate).2 ⟨r, hr, rfl⟩, ?_, ?_⟩
    · split <;> exact hid
    · split
      · rfl
      · exact hconsumed
  · exact .refl s

theorem quiet_takeChallenge (now : Time) (id did : String) (kind : ChallengeKind) :
    Quiet (takeChallenge now id did kind) := by
  intro s
  unfold takeChallenge
  repeat' split
  all_goals try exact .refl s
  exact (quiet_consume now _).bind (fun _ => quiet_pure _) s

theorem quiet_takePublicationChallenge (now : Time) (id did sessionId : String) :
    Quiet (takePublicationChallenge now id did sessionId) := by
  intro s
  unfold takePublicationChallenge
  repeat' split
  all_goals try exact .refl s
  exact (quiet_consume now _).bind (fun _ => quiet_pure _) s

theorem takeBound_after (now : Time) (did sessionId challengeId : String) (operation : Json)
    (operationHash : String) (s : WebauthnStore) :
    Steady (takePublicationChallenge now challengeId did sessionId s).2
      (takeBound now did sessionId challengeId operation operationHash s).2 :=
  Quiet.after (fun _ => (quiet_lift _).bind fun _ => quiet_pure _) _ s

theorem quiet_registrationOptions (now : Time) (fresh : WebauthnSync.Fresh) (did : String) :
    Quiet (registrationOptions now fresh did) :=
  (quiet_anchoredDid now did).bind fun _ => quiet_persistChallenge _

theorem quiet_authenticationOptions (now : Time) (fresh : WebauthnSync.Fresh)
    (did scope : String) : Quiet (authenticationOptions now fresh did scope) := by
  intro s
  unfold authenticationOptions
  split
  · exact .refl s
  · exact (quiet_anchoredDid now did).bind (fun _ => (quiet_lift _).bind fun _ =>
      quiet_persistChallenge _) s

theorem quiet_publicationOptions (now : Time) (fresh : WebauthnSync.Fresh)
    (did sessionId : String) (operation : Json) (operationHash : String) :
    Quiet (publicationOptions now fresh did sessionId operation operationHash) := fun s =>
  (quiet_anchoredDid now did).bind (fun _ => (quiet_lift _).bind fun _ =>
    quiet_persistChallenge _) s

theorem quiet_verifyEnrollmentDidProof (W : WebauthnEnv) (now : Time)
    (did challengeId : String) (credentialId : Binary) (signature : String) (delegation : Json) :
    Quiet (verifyEnrollmentDidProof W now did challengeId credentialId signature delegation)
      := by
  unfold verifyEnrollmentDidProof
  split
  · exact (quiet_verifySignature _ _ _ _ _).bind fun _ => (quiet_lift _).bind fun _ =>
      quiet_pure _
  · refine (quiet_lift _).bind fun _ => (quiet_lift _).bind fun _ => ?_
    split
    · split
      · exact (quiet_lift _).bind fun _ => (quiet_verifySignature _ _ _ _ _).bind
          fun _ => (quiet_lift _).bind fun _ => quiet_pure _
      · exact quiet_lift _
    · exact quiet_lift _
  · exact quiet_lift _

/-- A new credential is not revoked, and one that is there stays as it is. -/
theorem quiet_saveCredential (W : WebauthnEnv) (did : String) (credentialId coseKey : Binary)
    (attrs : DelegationAttrs) : Quiet (saveCredential W did credentialId coseKey attrs) := by
  intro s
  unfold saveCredential
  split
  · dsimp only
    split
    · next credentials hinsert =>
      refine ⟨fun id => ⟨?_, ?_⟩, fun id n => ?_, fun _ h => h⟩
      · rintro ⟨c, hc, hid, hrevoked⟩
        rcases (Table.mem_insert hinsert).1 hc with hc | rfl
        · exact ⟨c, hc, hid, hrevoked⟩
        · cases hrevoked
      · rintro ⟨c, hc, hid, hrevoked⟩
        exact ⟨c, (Table.mem_insert hinsert).2 (.inl hc), hid, hrevoked⟩
      · rintro ⟨c, hc, hid, hn⟩
        exact ⟨c, (Table.mem_insert hinsert).2 (.inl hc), hid, hn⟩
    · exact .refl s
  · split <;> exact .refl s

theorem finishRegistration_after (W : WebauthnEnv) (now : Time) (did challengeId : String)
    (credential : Json) (didSignature : String) (delegation : Json) (s : WebauthnStore) :
    Steady (takeChallenge now challengeId did .registration s).2
      (finishRegistration W now did challengeId credential didSignature delegation s).2 := by
  refine Quiet.after (fun challenge => ?_) _ s
  split
  · exact quiet_lift _
  · refine (quiet_verifyEnrollmentDidProof _ _ _ _ _ _ _).bind fun attrs => ?_
    split
    · split
      · exact (quiet_lift _).bind fun _ => quiet_saveCredential _ _ _ _ _
      · exact quiet_lift _
    · exact quiet_lift _

end Quiet

/-! ### Ends of ceremonies -/

/-- The counter of a credential can always be written, to the rows with its identifier. -/
theorem updateSignCount_eq (now : Time) (stored : WebauthnCredential) (count : ℤ)
    (s : WebauthnStore) : ∃ c t, updateSignCount now stored count s = (.ok c, t) ∧
      t.challenges = s.challenges ∧
      t.credentials.rows = s.credentials.rows.map fun row =>
        if (row.credentialId == stored.credentialId) = true then { row with
          signCount := if count = stored.signCount then row.signCount else count
          lastUsedAt := some now } else row := by
  have hvalid : CredentialIndexes (s.credentials.rows.map fun row =>
      if (row.credentialId == stored.credentialId) = true then { row with
        signCount := if count = stored.signCount then row.signCount else count
        lastUsedAt := some now } else row) := by
    refine ⟨s.credentials.valid.credential_id.map (fun c => ?_) fun _ h => h,
      s.credentials.valid.delegation_id.map (fun c => ?_) fun c h => ?_⟩
    · split <;> rfl
    · split <;> rfl
    · split at h <;> exact h
  unfold updateSignCount Table.update Table.commit
  rw [dif_pos hvalid]
  exact ⟨_, _, rfl, rfl, rfl⟩

theorem keepsRevoked_updateSignCount (now : Time) (stored : WebauthnCredential) (count : ℤ)
    (s : WebauthnStore) : KeepsRevoked s (updateSignCount now stored count s).2 := by
  obtain ⟨c, t, hupdate, -, hrows⟩ := updateSignCount_eq now stored count s
  rw [hupdate]
  refine keepsRevoked_of_map hrows (fun c => ?_) fun c => ?_ <;> split <;> rfl

/-- Whether an assertion verifies does not depend on the error for one that does not. -/
theorem assertion_congr {stored : WebauthnCredential} {challenge : WaxChallenge} {credential : Json}
    {invalid : SyncError} {count : ℤ}
    (h : assertion W now stored challenge credential invalid = .ok count) (invalid' : SyncError) :
    assertion W now stored challenge credential invalid' = .ok count := by
  unfold assertion at h ⊢
  split at h
  · split at h
    · split at h
      · cases h
      · next hgrows => exact (if_neg hgrows).trans h
    · cases h
  · cases h

/-- **A ceremony that ends writes the counter of an assertion that verifies**, and is logged when
it is an authentication. -/
theorem finishCeremony_spec (W : WebauthnEnv) (now : Time) (c : OpenCeremony)
    (stored : WebauthnCredential) (s : WebauthnStore) :
    (∃ count, assertion W now stored c.challenge c.credential .invalidAssertion = .ok count ∧
      (finishCeremony W now c stored s).2 = (updateSignCount now stored count s).2 ∧
      (c.kind = .authentication ∧
          (finishCeremony W now c stored s).1 = [.authenticated stored.credentialId] ∨
        c.kind ≠ .authentication ∧ (finishCeremony W now c stored s).1 = [])) ∨
    (∀ count, assertion W now stored c.challenge c.credential .invalidAssertion ≠ .ok count) ∧
      finishCeremony W now c stored s = ([], s) := by
  cases hassertion : assertion W now stored c.challenge c.credential .invalidAssertion with
  | ok count =>
    obtain ⟨row, t, hupdate, -⟩ := updateSignCount_eq now stored count s
    refine .inl ⟨count, rfl, ?_⟩
    rw [hupdate]
    unfold finishCeremony
    split
    · next hkind =>
      have hok : finishAuthentication W now c.did stored c.challenge c.credential s
          = (.ok ⟨c.did, [scope], now + seconds 300⟩, t) :=
        Checked.bind_eq_ok.2 ⟨count, s, Checked.lift_eq_ok.2 ⟨hassertion, rfl⟩,
          Checked.bind_eq_ok.2 ⟨row, t, hupdate, rfl⟩⟩
      rw [hok]
      exact ⟨rfl, .inl ⟨hkind, rfl⟩⟩
    · next operation operationHash hkind =>
      -- the answer of the last call is not of the form that a publication expects
      have herror : finishPublication W now stored c.challenge operationHash c.credential s
          = (.error .webauthnVerificationFailed, t) := by
        rw [finishPublication, Checked.bind_apply, Checked.lift_apply, assertion_congr hassertion]
        exact Checked.bind_apply.trans (by rw [hupdate]; rfl)
      rw [herror]
      exact ⟨rfl, .inr ⟨by rw [hkind]; nofun, rfl⟩⟩
  | error e =>
    refine .inr ⟨nofun, ?_⟩
    unfold finishCeremony
    split
    · rw [finishAuthentication, Checked.bind_apply, Checked.lift_apply, hassertion]
    · cases hother : assertion W now stored c.challenge c.credential
        .webauthnVerificationFailed with
      | ok count =>
        rw [assertion_congr hother] at hassertion
        cases hassertion
      | error e' => rw [finishPublication, Checked.bind_apply, Checked.lift_apply, hother]

/-! ### Revocations -/

/-- What fails leaves the tables steady. -/
def FailsQuiet {α : Type} (x : WebauthnSync.Ceremony α) : Prop :=
  ∀ s e t, x s = (.error e, t) → Steady s t

theorem Quiet.fails {α : Type} {x : WebauthnSync.Ceremony α} (h : Quiet x) : FailsQuiet x := by
  intro s e t hx
  have hs := h s
  rw [hx] at hs
  exact hs

theorem Quiet.bind_fails {α β : Type} {x : WebauthnSync.Ceremony α}
    {f : α → WebauthnSync.Ceremony β} (hx : Quiet x) (hf : ∀ a, FailsQuiet (f a)) :
    FailsQuiet (x >>= f) := by
  intro s e t h
  have hs := hx s
  rw [Checked.bind_apply] at h
  generalize x s = result at hs h
  obtain ⟨e' | a, u⟩ := result
  · rw [← (Prod.mk.inj h).2]
    exact hs
  · exact hs.trans _ _ _ (hf a u e t h)

theorem revokeCredential_fails (W : WebauthnEnv) (now : Time) (did encodedId : String)
    (revocation : Json) (signature : String) :
    FailsQuiet (revokeCredential W now did encodedId revocation signature) := by
  unfold revokeCredential
  split
  · exact (quiet_lift _).fails
  refine Quiet.bind_fails (Checked.Keeps.look Steady.refl _) fun stored => ?_
  refine (quiet_lift _).bind_fails fun _ => ?_
  split
  · split
    · refine (quiet_lift _).bind_fails fun _ => ?_
      refine (quiet_verifySignature _ _ _ _ _).bind_fails fun _ => ?_
      refine (quiet_lift _).bind_fails fun _ => (quiet_lift _).bind_fails fun _ => ?_
      intro s e t h
      dsimp only at h
      split at h
      · cases h
      · rw [← (Prod.mk.inj h).2]
        exact .refl s
    · exact (quiet_lift _).fails
  · exact (quiet_lift _).fails

/-- A revocation that succeeds writes its instant to the row of its credential. -/
theorem revokeCredential_eq_ok {did encodedId : String} {revocation : Json} {signature : String}
    {c : WebauthnCredential}
    (h : revokeCredential W now did encodedId revocation signature s = (.ok c, t)) :
    ∃ revokedAt, t.challenges = s.challenges ∧ c ∈ t.credentials.rows ∧
      t.credentials.rows = s.credentials.rows.map fun row =>
        if (row.credentialId == c.credentialId) = true then { row with
          revokedAt := some revokedAt } else row := by
  unfold revokeCredential at h
  generalize decodeUrl64 (bytes encodedId) = decoded at h
  cases decoded with
  | none => cases h
  | some key => ?_
  obtain ⟨stored, s₁, hlook, h₁⟩ := Checked.bind_eq_ok.1 h
  obtain ⟨hget, rfl⟩ := Checked.look_eq_ok.1 hlook
  obtain ⟨_, s₂, hmembers, h₂⟩ := Checked.bind_eq_ok.1 h₁
  obtain ⟨-, rfl⟩ := Checked.lift_eq_ok.1 hmembers
  generalize (revocation.fetch "revoked_at").orElse (.str "") = revokedText at h₂
  cases revokedText with
  | str text => ?_
  | _ => cases h₂
  dsimp only at h₂
  generalize DateTime.fromIso8601 text = parsed at h₂
  cases parsed with
  | none => cases h₂
  | some revokedAt => ?_
  obtain ⟨_, s₃, hrecent, h₃⟩ := Checked.bind_eq_ok.1 h₂
  obtain ⟨-, rfl⟩ := Checked.lift_eq_ok.1 hrecent
  obtain ⟨ok, s₄, hverify, h₄⟩ := Checked.bind_eq_ok.1 h₃
  obtain ⟨_, s₅, hok, h₅⟩ := Checked.bind_eq_ok.1 h₄
  obtain ⟨-, rfl⟩ := Checked.lift_eq_ok.1 hok
  obtain ⟨_, s₆, hinstant, h₆⟩ := Checked.bind_eq_ok.1 h₅
  obtain ⟨-, rfl⟩ := Checked.lift_eq_ok.1 hinstant
  obtain rfl := (Prod.mk.inj hverify).2
  -- the row that was looked up
  obtain ⟨hmem, hstored⟩ : stored ∈ s₃.credentials.rows ∧ stored.credentialId = key := by
    split at hget
    · next stored' hfind =>
      split at hget
      · cases hget
        exact ⟨Table.mem_of_find hfind, Table.key_of_find hfind⟩
      · cases hget
    · cases hget
  split at h₆
  swap
  · cases h₆
  next credentials hupdate =>
  obtain ⟨hc, rfl⟩ := Prod.mk.inj h₆
  cases hc
  have hrows := Table.rows_of_commit hupdate
  refine ⟨revokedAt.1, rfl, ?_, ?_⟩
  · rw [hrows]
    exact List.mem_map.2 ⟨stored, hmem, if_pos (beq_iff_eq.2 hstored)⟩
  · rw [hrows, ← hstored]

/-- **A revocation that succeeds revokes its credential and no other.** -/
theorem revokeCredential_isRevoked {did encodedId : String} {revocation : Json} {signature : String}
    {c : WebauthnCredential}
    (h : revokeCredential W now did encodedId revocation signature s = (.ok c, t)) (id : Binary) :
    IsRevoked t id ↔ IsRevoked s id ∨ id = c.credentialId := by
  obtain ⟨revokedAt, -, hc, hrows⟩ := revokeCredential_eq_ok h
  constructor
  · rintro ⟨r', hr', hid, hrevoked⟩
    rw [hrows] at hr'
    obtain ⟨r, hr, rfl⟩ := List.mem_map.1 hr'
    split at hid
    · next hkey => exact .inr (hid.symm.trans (beq_iff_eq.1 hkey))
    · next hkey =>
      rw [if_neg hkey] at hrevoked
      exact .inl ⟨r, hr, hid, hrevoked⟩
  · rintro (⟨r, hr, hid, hrevoked⟩ | rfl)
    · refine ⟨_, hrows ▸ List.mem_map_of_mem hr, ?_, ?_⟩
      · split <;> exact hid
      · split
        · rfl
        · exact hrevoked
    · refine ⟨c, hc, rfl, ?_⟩
      rw [hrows] at hc
      obtain ⟨r, -, hr⟩ := List.mem_map.1 hc
      split at hr
      · rw [← hr]
        rfl
      · next hkey => exact absurd (beq_iff_eq.2 (congrArg (·.credentialId) hr)) hkey

/-! ### Runs -/

def LogsRevocations (s : WebauthnSystem) : Prop :=
  ∀ id, .revoked id ∈ s.log ↔ IsRevoked s.store id

theorem logsRevocations_empty : LogsRevocations .empty := by
  intro id
  constructor
  · intro h
    cases h
  · rintro ⟨c, hc, -⟩
    cases hc

/-- The step adds no event, and no revocation. -/
theorem step_of_keeps {s t : WebauthnSystem} (hs : LogsRevocations s)
    (hkeeps : KeepsRevoked s.store t.store) (hlog : t.log = s.log) :
    LogsRevocations t ∧ (RevocationEnds t.log ↔ RevocationEnds s.log) := by
  refine ⟨fun id => ?_, by rw [hlog]⟩
  rw [hlog, hs id, hkeeps id]

/-- An event that is added at the end of the log is allowed when the credential that it uses is
not revoked. -/
theorem revocationEnds_append {log : List SyncEvent} {e : SyncEvent} :
    RevocationEnds (log ++ [e]) ↔ RevocationEnds log ∧
      ∀ id, e.Uses id → SyncEvent.revoked id ∉ log := by
  rw [RevocationEnds, List.pairwise_append, ← RevocationEnds]
  constructor
  · rintro ⟨hlog, -, hlast⟩
    exact ⟨hlog, fun id huses hmem => hlast _ hmem e (List.mem_singleton_self e) id rfl huses⟩
  · rintro ⟨hlog, huses⟩
    refine ⟨hlog, List.pairwise_singleton _ _, fun e₁ he₁ e₂ he₂ id hrevoked huse => ?_⟩
    obtain rfl := List.mem_singleton.1 he₂
    exact huses id huse (hrevoked ▸ he₁)

theorem opened_store (s : WebauthnSystem) (kind : CeremonyKind) (did : String) (credential : Json)
    (result : Except SyncError WaxChallenge × WebauthnStore) :
    (opened s kind did credential result).store = result.2 ∧
      (opened s kind did credential result).log = s.log := by
  obtain ⟨e | challenge, store⟩ := result
  · exact ⟨rfl, rfl⟩
  · exact ⟨rfl, rfl⟩

/-- The step neither ends a ceremony nor revokes. -/
def WebauthnStep.IsQuiet : WebauthnStep → Prop
  | .finish _ _ => False
  | .revoke _ _ _ _ _ => False
  | _ => True

theorem steady_step (W : WebauthnEnv) (s : WebauthnSystem) {a : WebauthnStep} (ha : a.IsQuiet) :
    Steady s.store (webauthnStep W s a).store ∧ (webauthnStep W s a).log = s.log := by
  cases a with
  | relay relay => exact ⟨steady_of_credentials rfl fun _ h => h, rfl⟩
  | registrationOptions now fresh did =>
    exact ⟨quiet_registrationOptions now fresh did s.store, rfl⟩
  | finishRegistration now did challengeId credential didSignature delegation =>
    exact ⟨.trans _ _ _ (quiet_takeChallenge now challengeId did .registration s.store)
      (finishRegistration_after W now did challengeId credential didSignature delegation
        s.store), rfl⟩
  | authenticationOptions now fresh did scope =>
    exact ⟨quiet_authenticationOptions now fresh did scope s.store, rfl⟩
  | publicationOptions now fresh did sessionId operation operationHash =>
    exact ⟨quiet_publicationOptions now fresh did sessionId operation operationHash s.store, rfl⟩
  | takeAuthentication now did challengeId credential requested =>
    dsimp only [webauthnStep]
    split
    · obtain ⟨hstore, hlog⟩ := opened_store s .authentication did credential
        (takeChallenge now challengeId did .authentication s.store)
      exact ⟨hstore ▸ quiet_takeChallenge now challengeId did .authentication s.store, hlog⟩
    · exact ⟨.refl _, rfl⟩
  | takePublication now did sessionId challengeId operation operationHash credential =>
    obtain ⟨hstore, hlog⟩ := opened_store s (.publication operation operationHash) did credential
      (takeBound now did sessionId challengeId operation operationHash s.store)
    exact ⟨hstore ▸ .trans _ _ _
      (quiet_takePublicationChallenge now challengeId did sessionId s.store)
      (takeBound_after now did sessionId challengeId operation operationHash s.store), hlog⟩
  | look now n =>
    dsimp only [webauthnStep]
    repeat' split
    all_goals exact ⟨.refl _, rfl⟩
  | finish now n => exact ha.elim
  | revoke now did encodedId revocation signature => exact ha.elim

/-- A ceremony ends with the credential that it has looked up. -/
theorem finish_cases (W : WebauthnEnv) (s : WebauthnSystem) (now : Time) (n : ℕ) :
    webauthnStep W s (.finish now n) = s ∧
        (∀ c stored, s.ceremonies[n]? = some c → c.stage ≠ .looked stored) ∨
      ∃ c stored, s.ceremonies[n]? = some c ∧ c.stage = .looked stored ∧
        webauthnStep W s (.finish now n) = { s.atStage n c .done with
          store := (finishCeremony W now c stored s.store).2
          log := s.log ++ (finishCeremony W now c stored s.store).1 } := by
  dsimp only [webauthnStep]
  split
  · next c hc =>
    split
    · next stored hstage => exact .inr ⟨c, stored, hc, hstage, rfl⟩
    · next hstage =>
      refine .inl ⟨rfl, fun c' stored hc' => ?_⟩
      obtain rfl := Option.some.inj (hc.symm.trans hc')
      exact hstage stored
  · next hnone =>
    refine .inl ⟨rfl, fun c stored hc => ?_⟩
    rw [hnone] at hc
    cases hc

/-- **What a step does to the log**: the end of the use of revoked credentials is kept exactly by
the steps that do not use one. -/
theorem LogsRevocations.step {s : WebauthnSystem} (hs : LogsRevocations s) (a : WebauthnStep) :
    LogsRevocations (webauthnStep W s a) ∧
      (RevocationEnds (webauthnStep W s a).log ↔ RevocationEnds s.log ∧ RevokedUnused W s a) := by
  have hquiet : ∀ {t : WebauthnSystem}, Steady s.store t.store ∧ t.log = s.log →
      LogsRevocations t ∧ (RevocationEnds t.log ↔ RevocationEnds s.log ∧ True) := by
    rintro t ⟨hsteady, hlog⟩
    rw [and_true]
    exact step_of_keeps hs hsteady.revoked hlog
  cases a with
  | finish now n =>
    rcases finish_cases W s now n with ⟨hsame, hnone⟩ | ⟨c, stored, hc, hstage, hstep⟩
    · rw [hsame]
      exact ⟨hs, ⟨fun h => ⟨h, fun c stored hc _ hlooked => absurd hlooked (hnone c stored hc)⟩,
        fun h => h.1⟩⟩
    rw [hstep]
    -- the ceremony that ends, and the credential that it looked up
    have hunused : RevokedUnused W s (.finish now n) ↔ (c.kind = .authentication →
        IsRevoked s.store stored.credentialId →
          ∀ count, assertion W now stored c.challenge c.credential .invalidAssertion
            ≠ .ok count) := by
      constructor
      · intro h hkind
        exact h c stored hc hkind hstage
      · intro h c' stored' hc' hkind hlooked
        rw [hc] at hc'
        cases hc'
        obtain rfl := CeremonyStage.looked.inj (hstage.symm.trans hlooked)
        exact h hkind
    rw [hunused]
    rcases finishCeremony_spec W now c stored s.store with
      ⟨count, hcount, hstore, ⟨hkind, hevents⟩ | ⟨hkind, hevents⟩⟩ | ⟨hfails, hunchanged⟩
    · dsimp only
      rw [hevents, hstore, revocationEnds_append]
      refine ⟨fun id => ?_, and_congr_right fun _ => ?_⟩
      · dsimp only
        rw [keepsRevoked_updateSignCount now stored count s.store id, ← hs id, List.mem_append,
          List.mem_singleton]
        constructor
        · rintro (h | h)
          · exact h
          · cases h
        · exact .inl
      · constructor
        · intro h _ hrevoked
          exact absurd ((hs _).2 hrevoked) (h _ (.inl rfl))
        · rintro h id (huse | huse)
          · cases huse
            exact fun hmem => h hkind ((hs _).1 hmem) count hcount
          · cases huse
    · dsimp only
      rw [hevents, hstore, List.append_nil]
      refine ⟨fun id => ?_, ⟨fun h => ⟨h, fun hauth => absurd hauth hkind⟩, fun h => h.1⟩⟩
      dsimp only
      rw [keepsRevoked_updateSignCount now stored count s.store id, hs id]
    · rw [hunchanged, List.append_nil]
      exact ⟨hs, ⟨fun h => ⟨h, fun _ _ => hfails⟩, fun h => h.1⟩⟩
  | revoke now did encodedId revocation signature =>
    dsimp only [webauthnStep]
    split
    · next c store hok =>
      have hspec := revokeCredential_isRevoked hok
      dsimp only
      rw [revocationEnds_append]
      refine ⟨fun id => ?_, and_congr_right fun _ => ?_⟩
      · dsimp only
        rw [hspec id, ← hs id, List.mem_append, List.mem_singleton, SyncEvent.revoked.injEq]
      · refine ⟨fun _ => trivial, ?_⟩
        rintro - id (huse | huse) <;> cases huse
    · next e store herror =>
      exact hquiet ⟨revokeCredential_fails W now did encodedId revocation signature s.store e store
        herror, rfl⟩
  | _ => exact hquiet (steady_step W s trivial)

/-- **After its revocation no ceremony of a credential succeeds exactly in the runs in which no
authentication that ends with a revoked credential has an assertion that verifies.**  The
induction is on the run: the log of a step is in order exactly when that of the state before is,
and the step itself ends no ceremony of a revoked credential. -/
theorem revocation_ends_iff (W : WebauthnEnv) (steps : List WebauthnStep) :
    RevocationEnds (exec (webauthnStep W) .empty steps).log ↔
      Along (webauthnStep W) (RevokedUnused W) .empty steps := by
  have hrun : ∀ steps s, LogsRevocations s →
      (RevocationEnds (exec (webauthnStep W) s steps).log ↔
        RevocationEnds s.log ∧ Along (webauthnStep W) (RevokedUnused W) s steps) := by
    intro steps
    induction steps with
    | nil =>
      intro s _
      exact (and_iff_left trivial).symm
    | cons a steps ih =>
      intro s hs
      obtain ⟨hnext, hends⟩ := hs.step (W := W) a
      rw [exec_cons, ih _ hnext, hends, along_cons, and_assoc]
  rw [hrun steps _ logsRevocations_empty]
  exact and_iff_right List.Pairwise.nil

/-! ### A revoked credential that signs in -/

/-- An authenticator whose registration is the credential with its key, and whose assertion
repeats the key and the challenge; it has no counter. -/
def toyWax : Wax where
  register _ attestation _ _ := some (attestation.take 1, attestation.drop 1)
  authenticate _ id _ signature _ challenge keys :=
    match keys.lookup id with
    | some key => if signature = key ++ challenge.bytes then some 0 else none
    | none => none

def toyWebauthn : WebauthnEnv where
  toPlatform := .toy
  wax := toyWax
  rpId := "elix.cool"

/-- Alice has anchored a key. -/
def toyAnchored : Relay := { Relay.empty with
  verifiedDidCache := Ets.insert (fun _ => none) "did:plc:alice"
    { publicKeyHex := toyKeyHex 1, signingAlgorithm := "p256-sha256", keyVersion := 1,
      nullifier := none, expiresAt := 1 } }

/-- The responses of the credential with the identifier `01` and the key `07`. -/
def toyResponse : Json :=
  .obj [("rawId", .str "AQ"), ("response", .obj [("clientDataJSON", .str ""),
    ("attestationObject", .str "AQc"), ("authenticatorData", .str ""),
    ("signature", .str "BwU")])]

def toyRevocation : Json :=
  .obj [("credential_id", .str "AQ"), ("nonce", .str "n"),
    ("revoked_at", .str "1970-01-01T00:00:00.000000Z"), ("subject_did", .str "did:plc:alice"),
    ("type", .str "io.trisaura.identity.webCredentialRevocation"), ("version", .int 1)]

/-- Alice enrols a credential, asks for options, revokes the credential, and answers. -/
def toyRevokedRun : List WebauthnStep :=
  [.relay toyAnchored,
    .registrationOptions 0 ⟨"c-1", [5]⟩ "did:plc:alice",
    .finishRegistration 0 "did:plc:alice" "c-1" toyResponse
      (toySign 1 "c-1.AQ".toList) .null,
    .authenticationOptions 0 ⟨"c-2", [5]⟩ "did:plc:alice" "sync:write",
    .revoke 0 "did:plc:alice" "AQ" toyRevocation
      (toySign 1 (VpVerifier.canonicalJson toyRevocation)),
    .takeAuthentication 0 "did:plc:alice" "c-2" toyResponse "sync:write",
    .look 0 0, .finish 0 0]

/-- **A credential authenticates after its revocation**, here with a challenge from before. -/
theorem revoked_credential_authenticates :
    ¬ RevocationEnds (exec (webauthnStep toyWebauthn) .empty toyRevokedRun).log := by
  have hlog : (exec (webauthnStep toyWebauthn) .empty toyRevokedRun).log
      = [.revoked [1], .authenticated [1]] := by decide +kernel
  rw [hlog]
  intro h
  exact (List.pairwise_cons.1 h).1 _ (List.mem_singleton_self _) [1] rfl (.inl rfl)

end Ansible
