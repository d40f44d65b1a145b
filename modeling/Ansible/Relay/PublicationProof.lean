import Ansible.Relay.WebauthnRevocation

/-!
# Proofs of publication

A publication is signed by an assertion over a challenge that is bound to it.  The checks are one
chain, and its last clause expects a pair from the update of the counter, which answers with the
row.

## Main definitions

* `WebauthnSync.verifyPublication` — the whole chain.
* `PassesChecks` — the challenge, the credential and the assertion pass every check.

## Main results

* `verifyPublication_of_passes` — **a publication that passes every check is refused.**
-/

namespace Ansible

namespace WebauthnSync

/-- `verify_publication`: the policy for proofs of authors admits the algorithm of passkeys always.
-/
def verifyPublication (W : WebauthnEnv) (now : Time) (did sessionId challengeId : String)
    (operation : Json) (operationHash : String) (credential : Json) :
    Ceremony PublicationProof := do
  let challenge ← takeBound now did sessionId challengeId operation operationHash
  let stored ← .look (publicationCredential W now did operation credential)
  finishPublication W now stored challenge operationHash credential

end WebauthnSync

open WebauthnSync

/-! ### Ceremonies that pass -/

/-- The challenge `row` is stored and waits for this operation, the credential `stored` may sign
it, and the assertion verifies with the counter `count`. -/
structure PassesChecks (W : WebauthnEnv) (now : Time) (did sessionId challengeId : String)
    (operation : Json) (operationHash : String) (credential : Json) (s : WebauthnStore)
    (row : WebauthnChallenge) (stored : WebauthnCredential) (count : ℤ) : Prop where
  found : s.challenges.find (·.challengeId == challengeId) = some row
  unconsumed : row.consumedAt = none
  issued : row.did = did ∧ row.kind = .webPublication ∧
    row.binding.map (·.sessionId) = some sessionId
  unexpired : now < row.expiresAt
  bound : row.binding.any (fun b => boundTo b operation operationHash) = true
  named : rawId credential = some stored.credentialId
  enrolled : getCredential stored.credentialId s = some stored
  owned : stored.did = did
  authorised :
    authorizePublicationCredential W now stored (operation.fetch "action") = .ok ()
  verified : assertion W now stored row.waxChallenge credential .webauthnVerificationFailed
    = .ok count

/-- A proof is returned, and the row of the credential has the counter. -/
def Succeeds (id : Binary) (count : ℤ)
    (result : Except SyncError PublicationProof × WebauthnStore) : Prop :=
  (∃ proof, result.1 = .ok proof) ∧ (getCredential id result.2).map (·.signCount) = some count

section

variable {W : WebauthnEnv} {now : Time} {did sessionId challengeId : String} {operation : Json}
  {operationHash : String} {credential : Json} {s : WebauthnStore} {row : WebauthnChallenge}
  {stored : WebauthnCredential} {count : ℤ}

theorem consume_isOk (now : Time) (c : WebauthnChallenge) (s : WebauthnStore) :
    ∃ challenges, consume now c s = (.ok (), { s with challenges }) := by
  have hvalid : UniqueOn (·.challengeId) (fun _ => true) (s.challenges.rows.map fun row =>
      if row.challengeId == c.challengeId then { row with consumedAt := some now } else row) := by
    refine s.challenges.valid.map (fun row => ?_) fun _ _ => rfl
    split <;> rfl
  obtain ⟨challenges, hchallenges⟩ := Option.isSome_iff_exists.1 (Table.commit_isSome.2 hvalid)
  refine ⟨challenges, ?_⟩
  unfold consume Table.update
  rw [hchallenges]

/-- The challenge of a publication that passes is claimed, and nothing else is written. -/
theorem takeBound_of_passes (h : PassesChecks W now did sessionId challengeId operation
    operationHash credential s row stored count) :
    ∃ challenges, takeBound now did sessionId challengeId operation operationHash s
      = (.ok row.waxChallenge, { s with challenges }) := by
  obtain ⟨challenges, hconsume⟩ := consume_isOk now row s
  have htake : takePublicationChallenge now challengeId did sessionId s
      = (.ok row, { s with challenges }) := by
    unfold takePublicationChallenge
    rw [h.found]
    dsimp only
    rw [if_neg (not_not_intro h.unconsumed), if_pos h.issued, if_pos h.unexpired,
      Checked.bind_apply, hconsume]
    rfl
  refine ⟨challenges, ?_⟩
  unfold takeBound
  rw [Checked.bind_apply, htake]
  dsimp only
  rw [h.bound]
  rfl

theorem publicationCredential_of_passes (h : PassesChecks W now did sessionId challengeId operation
    operationHash credential s row stored count) :
    publicationCredential W now did operation credential s = .ok stored := by
  unfold publicationCredential
  rw [h.named]
  dsimp only
  rw [h.enrolled]
  dsimp only
  rw [if_pos h.owned, h.authorised]
  rfl

/-- The counter of a credential that is enrolled can be written, and the lookup finds it then. -/
theorem updateSignCount_spec (now : Time) (count : ℤ)
    (henrolled : getCredential stored.credentialId s = some stored) :
    ∃ c t, updateSignCount now stored count s = (.ok c, t) ∧
      (getCredential stored.credentialId t).map (·.signCount) = some count := by
  obtain ⟨c, t, hok, -⟩ := updateSignCount_eq now stored count s
  refine ⟨c, t, hok, ?_⟩
  unfold updateSignCount at hok
  split at hok
  · next credentials hupdate =>
    cases hok
    unfold getCredential Table.find at henrolled ⊢
    rw [Table.rows_of_commit hupdate, List.find?_map]
    -- the update keeps the identifiers, so that the same row is found
    have hkeys : ((fun c : WebauthnCredential => c.credentialId == stored.credentialId) ∘
        fun row => if row.credentialId == stored.credentialId then { row with
          signCount := if count = stored.signCount then row.signCount else count
          lastUsedAt := some now } else row) = fun c => c.credentialId == stored.credentialId := by
      funext row
      rw [Function.comp_apply]
      split <;> rfl
    rw [hkeys, henrolled, Option.map_some, Option.map_some, if_pos (beq_self_eq_true _)]
    dsimp only
    split
    · next hsame => rw [hsame]
    · rfl
  · cases (Prod.mk.inj hok).1

/-- What `verify_publication` does when every check passes: the counter is stored, and the answer
is an error. -/
theorem verifyPublication_eq (h : PassesChecks W now did sessionId challengeId operation
    operationHash credential s row stored count) :
    ∃ t, verifyPublication W now did sessionId challengeId operation operationHash credential s
        = (.error .webauthnVerificationFailed, t) ∧
      (getCredential stored.credentialId t).map (·.signCount) = some count := by
  obtain ⟨challenges, htake⟩ := takeBound_of_passes h
  obtain ⟨c, t, hupdate, hcount⟩ := updateSignCount_spec (s := { s with challenges }) now count
    h.enrolled
  refine ⟨t, ?_, hcount⟩
  have hstored := publicationCredential_of_passes h
  have hlook : publicationCredential W now did operation credential { s with challenges }
      = .ok stored := hstored
  unfold verifyPublication
  rw [Checked.bind_apply, htake]
  dsimp only
  rw [Checked.bind_apply, Checked.look_apply, hlook]
  dsimp only
  unfold finishPublication
  rw [Checked.bind_apply, Checked.lift_apply, h.verified]
  dsimp only
  rw [Checked.bind_apply, hupdate]
  rfl

end

/-- **A publication that passes every check is refused**: the counter is stored, no proof is
returned, and the answer is the general error. -/
theorem verifyPublication_of_passes {W : WebauthnEnv} {now : Time}
    {did sessionId challengeId : String} {operation : Json} {operationHash : String}
    {credential : Json} {s : WebauthnStore} {row : WebauthnChallenge}
    {stored : WebauthnCredential} {count : ℤ} (h : PassesChecks W now did sessionId challengeId
      operation operationHash credential s row stored count) :
    ¬ Succeeds stored.credentialId count
        (verifyPublication W now did sessionId challengeId operation operationHash credential s) ∧
      (verifyPublication W now did sessionId challengeId operation operationHash credential s).1
        = .error .webauthnVerificationFailed := by
  obtain ⟨t, heq, -⟩ := verifyPublication_eq h
  rw [heq]
  refine ⟨?_, rfl⟩
  rintro ⟨⟨proof, hproof⟩, -⟩
  cases hproof

/-! ### A publication that is refused -/

/-- The credential with the identifier `01` and the key `07`, delegated for publications. -/
def toyPasskey : WebauthnCredential where
  credentialId := [1]
  did := "did:plc:alice"
  coseKey := [7]
  signCount := 0
  lastUsedAt := none
  delegationId := some "d-1"
  credentialThumbprint := []
  rpId := some "elix.cool"
  allowedActions := ["forum.publish"]
  delegationExpiresAt := none
  revokedAt := none

def toyOperation : Json :=
  .obj [("action", .str "forum.publish"), ("board_id", .str "b-1"), ("operation_id", .str "o-1"),
    ("target_forum_host", .str "elix.cool")]

/-- The challenge `05` for the operation. -/
def toyPublicationChallenge : WebauthnChallenge where
  challengeId := "c-1"
  did := "did:plc:alice"
  kind := .webPublication
  waxChallenge := ⟨[5], 0, [([1], [7])]⟩
  binding := some ⟨"s-1", .str "o-1", "hash", .str "forum.publish", .str "elix.cool", .str "b-1"⟩
  expiresAt := 1
  consumedAt := none

def toyPublicationStore : WebauthnStore where
  relay := Relay.empty
  credentials := ⟨[toyPasskey], by decide⟩
  challenges := ⟨[toyPublicationChallenge], by decide⟩

theorem toy_passes : PassesChecks toyWebauthn 0 "did:plc:alice" "s-1" "c-1" toyOperation "hash"
    toyResponse toyPublicationStore toyPublicationChallenge toyPasskey 0 where
  found := by rfl
  unconsumed := rfl
  issued := by decide +kernel
  unexpired := by decide
  bound := by decide +kernel
  named := by decide +kernel
  enrolled := by rfl
  owned := rfl
  authorised := by decide +kernel
  verified := by decide +kernel

theorem verifyPublication_of_passes_toy :
    ¬ Succeeds [1] 0 (verifyPublication toyWebauthn 0 "did:plc:alice" "s-1" "c-1" toyOperation
        "hash" toyResponse toyPublicationStore) ∧
      (verifyPublication toyWebauthn 0 "did:plc:alice" "s-1" "c-1" toyOperation "hash" toyResponse
        toyPublicationStore).1 = .error .webauthnVerificationFailed :=
  verifyPublication_of_passes toy_passes

/-- **A publication that passes every check does not succeed**, here Alice's first with a new
passkey. -/
theorem passing_publication_refused :
    ¬ (PassesChecks toyWebauthn 0 "did:plc:alice" "s-1" "c-1" toyOperation "hash" toyResponse
        toyPublicationStore toyPublicationChallenge toyPasskey 0 →
      Succeeds [1] 0 (verifyPublication toyWebauthn 0 "did:plc:alice" "s-1" "c-1" toyOperation
        "hash" toyResponse toyPublicationStore)) := by
  intro h
  obtain ⟨⟨proof, hproof⟩, -⟩ := h toy_passes
  obtain ⟨t, heq, -⟩ := verifyPublication_eq toy_passes
  rw [heq] at hproof
  cases hproof

end Ansible
