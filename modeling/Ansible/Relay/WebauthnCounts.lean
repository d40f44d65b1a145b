import Ansible.Relay.WebauthnRevocation

/-!
# The counters of credentials

An authenticator counts its assertions, so that a copy of it is told by a counter that does not go
on.  A ceremony reads the counter of the row, compares it, and writes the new one, in three steps;
a response without a counter has the counter zero.  Each ceremony claims a challenge first.

## Main definitions

* `CountedSystem`, `countedStep` — the system, with the assertions that it has accepted and the
  challenges that have been claimed.
* `CountsGrow` — no counter comes twice or falls back.

## Main results

* `counters_grow` — **each challenge is claimed once, and in the runs of such assertions the
  counters grow.**
* `zero_count_accepted` — an assertion without a counter is accepted after one with a counter.
-/

namespace Ansible

open WebauthnSync

/-! ### The system -/

/-- An assertion that has been accepted, and the counter of the row before it. -/
structure Acceptance where
  credentialId : Binary
  before : ℤ
  count : ℤ
  deriving DecidableEq

structure CountedSystem where
  system : WebauthnSystem
  accepted : List Acceptance
  claimed : List String

/-- The counter of the credential's row. -/
def storedCount (id : Binary) (s : WebauthnStore) : Option ℤ :=
  (getCredential id s).map (·.signCount)

def OpenCeremony.looked (c : OpenCeremony) : Option WebauthnCredential :=
  match c.stage with
  | .looked stored => some stored
  | _ => none

/-- The assertion that the step accepts. -/
def acceptedBy (W : WebauthnEnv) (s : WebauthnSystem) : WebauthnStep → Option Acceptance
  | .finish now n => do
    let c ← s.ceremonies[n]?
    let stored ← c.looked
    let count ← (assertion W now stored c.challenge c.credential .invalidAssertion).toOption
    return ⟨stored.credentialId, (storedCount stored.credentialId s.store).getD 0, count⟩
  | _ => none

/-- The challenge is claimed when it is taken. -/
def claimOf {α : Type} (id : String) (result : Except SyncError α × WebauthnStore) :
    Option String :=
  result.1.toOption.map fun _ => id

/-- The challenge that the step claims. -/
def claimedBy (s : WebauthnSystem) : WebauthnStep → Option String
  | .finishRegistration now did challengeId _ _ _ =>
    claimOf challengeId (takeChallenge now challengeId did .registration s.store)
  | .takeAuthentication now did challengeId _ requested =>
    if requested = scope then
      claimOf challengeId (takeChallenge now challengeId did .authentication s.store)
    else none
  | .takePublication now did sessionId challengeId _ _ _ =>
    claimOf challengeId (takePublicationChallenge now challengeId did sessionId s.store)
  | _ => none

def CountedSystem.empty : CountedSystem := ⟨.empty, [], []⟩

def countedStep (W : WebauthnEnv) (s : CountedSystem) (a : WebauthnStep) : CountedSystem where
  system := webauthnStep W s.system a
  accepted := s.accepted ++ (acceptedBy W s.system a).toList
  claimed := s.claimed ++ (claimedBy s.system a).toList

/-! ### The law -/

/-- Over a counter that is not zero, an assertion counts further than all before it. -/
def CountsGrow (accepted : List Acceptance) : Prop :=
  accepted.Pairwise fun x y => x.credentialId = y.credentialId → y.before ≠ 0 → x.count < y.count

/-- A ceremony that ends with an assertion read the counter zero, which the row still has; or its
assertion has a counter, and the row has the counter that it read, or one below that of the
assertion. -/
def Uncloned (W : WebauthnEnv) (s : WebauthnSystem) : WebauthnStep → Prop
  | .finish now n => ∀ c ∈ s.ceremonies[n]?, ∀ stored ∈ c.looked,
      ∀ count ∈ (assertion W now stored c.challenge c.credential .invalidAssertion).toOption,
        ∃ b ∈ storedCount stored.credentialId s.store, b = 0 ∧ stored.signCount = 0 ∨
          0 < count ∧ (b = stored.signCount ∨ b < count)
  | _ => True

/-! ### Claims -/

variable {s : WebauthnStore} {now : Time} {stored : WebauthnCredential} {W : WebauthnEnv}

theorem claims_of_consume {α : Type} {id : String} {row : WebauthnChallenge}
    (hfind : s.challenges.find (·.challengeId == id) = some row) (hopen : row.consumedAt = none)
    (now : Time) (a : α) :
    ∀ x ∈ claimOf id ((do consume now row; return a : Ceremony α) s), ¬ Consumed s x ∧
      Consumed ((do consume now row; return a : Ceremony α) s).2 x := by
  have hid : row.challengeId = id := Table.key_of_find hfind
  have hrow := Table.mem_of_find hfind
  intro x hx
  obtain ⟨a', hok, rfl⟩ := Option.map_eq_some_iff.1 hx
  generalize hresult : (do consume now row; return a : Ceremony α) s = result at hok ⊢
  obtain ⟨r, u⟩ := result
  obtain rfl : r = .ok a' := ok_of_toOption hok
  obtain ⟨_, t, hconsume, hpure⟩ := Checked.bind_eq_ok.1 hresult
  obtain rfl := (Prod.mk.inj hpure).2
  refine ⟨?_, ?_⟩
  · rintro ⟨r, hr, hkey, hconsumed⟩
    obtain rfl := s.challenges.valid.eq hr hrow rfl rfl (hkey.trans hid.symm)
    rw [hopen] at hconsumed
    cases hconsumed
  · unfold consume at hconsume
    split at hconsume
    · next challenges hupdate =>
      rw [← (Prod.mk.inj hconsume).2]
      refine ⟨_, (Table.mem_update hupdate).2 ⟨row, hrow, rfl⟩, ?_, ?_⟩
      · rw [if_pos (beq_self_eq_true _)]
        exact hid
      · rw [if_pos (beq_self_eq_true _)]
        rfl
    · cases hconsume

theorem takeChallenge_claims (now : Time) (id did : String) (kind : ChallengeKind)
    (s : WebauthnStore) : ∀ x ∈ claimOf id (takeChallenge now id did kind s),
      ¬ Consumed s x ∧ Consumed (takeChallenge now id did kind s).2 x := by
  unfold takeChallenge
  split
  · next row hfind =>
    split
    · next hrow =>
      split
      · exact claims_of_consume hfind hrow.2.2 now _
      · nofun
    · nofun
  · nofun

theorem takePublicationChallenge_claims (now : Time) (id did sessionId : String)
    (s : WebauthnStore) : ∀ x ∈ claimOf id (takePublicationChallenge now id did sessionId s),
      ¬ Consumed s x ∧ Consumed (takePublicationChallenge now id did sessionId s).2 x := by
  unfold takePublicationChallenge
  split
  · next row hfind =>
    split
    · nofun
    next hopen =>
    split
    · split
      · exact claims_of_consume hfind (not_not.1 hopen) now _
      · nofun
    · nofun
  · nofun

/-- **A challenge that a step claims has not been claimed, and is.** -/
theorem claimedBy_spec (W : WebauthnEnv) (s : WebauthnSystem) (a : WebauthnStep) :
    ∀ x ∈ claimedBy s a, ¬ Consumed s.store x ∧ Consumed (webauthnStep W s a).store x := by
  intro x hx
  cases a with
  | finishRegistration now did challengeId credential didSignature delegation =>
    obtain ⟨hnew, hclaimed⟩ := takeChallenge_claims now challengeId did .registration s.store x hx
    exact ⟨hnew, (finishRegistration_after W now did challengeId credential didSignature delegation
      s.store).consumed x hclaimed⟩
  | takeAuthentication now did challengeId credential requested =>
    dsimp only [claimedBy, webauthnStep] at hx ⊢
    split at hx
    · next hscope =>
      rw [if_pos hscope, (opened_store ..).1]
      exact takeChallenge_claims now challengeId did .authentication s.store x hx
    · cases hx
  | takePublication now did sessionId challengeId operation operationHash credential =>
    obtain ⟨hnew, hclaimed⟩ :=
      takePublicationChallenge_claims now challengeId did sessionId s.store x hx
    refine ⟨hnew, ?_⟩
    rw [webauthnStep, (opened_store ..).1]
    exact (takeBound_after now did sessionId challengeId operation operationHash
      s.store).consumed x hclaimed
  | _ => cases hx

/-! ### Counters -/

theorem of_storedCount {id : Binary} {b : ℤ} (h : storedCount id s = some b) :
    ∃ c ∈ s.credentials.rows, c.credentialId = id ∧ c.signCount = b := by
  obtain ⟨c, hc, rfl⟩ := Option.map_eq_some_iff.1 h
  exact ⟨c, Table.mem_of_find hc, Table.key_of_find hc, rfl⟩

/-- A row has the counter that is written, unless that is the one which was read. -/
theorem counted_updateSignCount {c : WebauthnCredential} {count n : ℤ} (hc : c ∈ s.credentials.rows)
    (hn : n ≤ if c.credentialId = stored.credentialId ∧ count ≠ stored.signCount then count
      else c.signCount) : Counted (updateSignCount now stored count s).2 c.credentialId n := by
  obtain ⟨row, t, hupdate, -, hrows⟩ := updateSignCount_eq now stored count s
  rw [hupdate]
  refine ⟨_, hrows ▸ List.mem_map_of_mem hc, ?_, ?_⟩
  · split <;> rfl
  · by_cases hkey : c.credentialId = stored.credentialId
    · rw [if_pos (beq_iff_eq.2 hkey)]
      by_cases hcount : count = stored.signCount
      · rw [if_neg fun h => h.2 hcount] at hn
        exact (if_pos hcount).symm ▸ hn
      · rw [if_pos ⟨hkey, hcount⟩] at hn
        exact (if_neg hcount).symm ▸ hn
    · rw [if_neg fun h => hkey h.1] at hn
      rw [if_neg fun h => hkey (beq_iff_eq.1 h)]
      exact hn

/-- An assertion that verifies over a counter, with one itself, goes beyond it. -/
theorem lt_of_assertion {challenge : WaxChallenge} {credential : Json} {invalid : SyncError}
    {count : ℤ} (h : assertion W now stored challenge credential invalid = .ok count) :
    ¬ (0 < stored.signCount ∧ 0 < count ∧ count ≤ stored.signCount) := by
  unfold assertion at h
  split at h
  · split at h
    · split at h
      · cases h
      · next hgrows => exact Except.ok.inj h ▸ hgrows
    · cases h
  · cases h

theorem looked_eq_some {c : OpenCeremony} : c.looked = some stored ↔ c.stage = .looked stored := by
  unfold OpenCeremony.looked
  split
  · next h => rw [h, Option.some.injEq, CeremonyStage.looked.injEq]
  · next h => exact ⟨nofun, fun hstage => absurd hstage (h stored)⟩

theorem acceptedBy_finish {s : WebauthnSystem} {n : ℕ} {x : Acceptance} :
    acceptedBy W s (.finish now n) = some x ↔
      ∃ c stored count, s.ceremonies[n]? = some c ∧ c.looked = some stored ∧
        assertion W now stored c.challenge c.credential .invalidAssertion = .ok count ∧
        x = ⟨stored.credentialId, (storedCount stored.credentialId s.store).getD 0, count⟩ := by
  simp only [acceptedBy, Option.bind_eq_bind, Option.bind_eq_some_iff, Option.pure_def,
    Option.some.injEq]
  constructor
  · rintro ⟨c, hc, stored, hlooked, count, hcount, rfl⟩
    exact ⟨c, stored, count, hc, hlooked, ok_of_toOption hcount, rfl⟩
  · rintro ⟨c, stored, count, hc, hlooked, hcount, rfl⟩
    exact ⟨c, hc, stored, hlooked, count, by rw [hcount]; rfl, rfl⟩

/-- **What a step does to the counters**: it leaves them, or writes that of the assertion that it
accepts. -/
theorem step_counts (W : WebauthnEnv) (s : WebauthnSystem) (a : WebauthnStep) :
    (∀ id, Consumed s.store id → Consumed (webauthnStep W s a).store id) ∧
    ((acceptedBy W s a = none ∧
        ∀ id n, Counted s.store id n → Counted (webauthnStep W s a).store id n) ∨
      ∃ now n c stored count, a = .finish now n ∧ s.ceremonies[n]? = some c ∧
        c.looked = some stored ∧
        assertion W now stored c.challenge c.credential .invalidAssertion = .ok count ∧
        (webauthnStep W s a).store = (updateSignCount now stored count s.store).2) := by
  -- only the end of a ceremony writes a counter, and only a revocation another member
  by_cases hquiet : a.IsQuiet
  · obtain ⟨hsteady, -⟩ := steady_step W s hquiet
    refine ⟨hsteady.consumed, .inl ⟨?_, hsteady.counted⟩⟩
    cases a with
    | finish now n => exact hquiet.elim
    | _ => rfl
  cases a with
  | finish now n =>
    rcases finish_cases W s now n with ⟨hsame, hnone⟩ | ⟨c, stored, hc, hstage, hstep⟩
    · rw [hsame]
      refine ⟨fun _ h => h, .inl ⟨?_, fun _ _ h => h⟩⟩
      refine Option.eq_none_iff_forall_ne_some.2 fun x hx => ?_
      obtain ⟨c, stored, count, hc, hlooked, -⟩ := acceptedBy_finish.1 hx
      exact hnone c stored hc (looked_eq_some.1 hlooked)
    · have hlooked := looked_eq_some.2 hstage
      rw [hstep]
      rcases finishCeremony_spec W now c stored s.store with
        ⟨count, hcount, hstore, -⟩ | ⟨hfails, hunchanged⟩
      · rw [hstore]
        refine ⟨?_, .inr ⟨now, n, c, stored, count, rfl, hc, hlooked, hcount, rfl⟩⟩
        obtain ⟨row, t, hupdate, hchallenges, -⟩ := updateSignCount_eq now stored count s.store
        intro id hid
        rw [hupdate]
        rwa [Consumed, hchallenges]
      · rw [hunchanged]
        refine ⟨fun _ h => h, .inl ⟨?_, fun _ _ h => h⟩⟩
        refine Option.eq_none_iff_forall_ne_some.2 fun x hx => ?_
        obtain ⟨c', stored', count, hc', hlooked', hcount, -⟩ := acceptedBy_finish.1 hx
        obtain rfl := Option.some.inj (hc.symm.trans hc')
        obtain rfl := Option.some.inj (hlooked.symm.trans hlooked')
        exact hfails count hcount
  | revoke now did encodedId revocation signature =>
    dsimp only [webauthnStep]
    split
    · next c store hok =>
      obtain ⟨revokedAt, hchallenges, -, hrows⟩ := revokeCredential_eq_ok hok
      refine ⟨fun id hid => by rwa [Consumed, hchallenges], .inl ⟨rfl, ?_⟩⟩
      rintro id n ⟨r, hr, hid, hn⟩
      refine ⟨_, hrows ▸ List.mem_map_of_mem hr, ?_, ?_⟩
      · split <;> exact hid
      · split <;> exact hn
    · next e store herror =>
      have h := revokeCredential_fails W now did encodedId revocation signature s.store e store
        herror
      exact ⟨h.consumed, .inl ⟨rfl, h.counted⟩⟩
  | _ => exact absurd trivial hquiet

/-! ### Runs -/

/-- A counter that has been accepted is that of the row, or one below. -/
def CountsKept (s : CountedSystem) : Prop :=
  ∀ x ∈ s.accepted, 0 < x.count → Counted s.system.store x.credentialId x.count

/-- **Counters that grow are kept so by an assertion that goes on.** -/
theorem CountsKept.step {s : CountedSystem} (hs : CountsKept s) (hgrow : CountsGrow s.accepted)
    {a : WebauthnStep} (ha : Uncloned W s.system a) :
    CountsKept (countedStep W s a) ∧ CountsGrow (countedStep W s a).accepted := by
  obtain ⟨-, ⟨hnone, hkept⟩ | ⟨now, n, c, stored, count, rfl, hc, hlooked, hcount, hstore⟩⟩ :=
    step_counts W s.system a
  · unfold countedStep CountsKept
    rw [hnone, Option.toList_none, List.append_nil]
    exact ⟨fun x hx hpos => hkept _ _ (hs x hx hpos), hgrow⟩
  obtain ⟨b, hb, hok⟩ := ha c hc stored hlooked count (by rw [hcount]; rfl)
  have hgrows := lt_of_assertion hcount
  obtain ⟨row, hrow, hkey, rfl⟩ := of_storedCount hb
  -- no count that was accepted is above that of the row
  have hbefore : ∀ x ∈ s.accepted, x.credentialId = stored.credentialId → 0 < x.count →
      x.count ≤ row.signCount := by
    intro x hx hid hpos
    obtain ⟨r, hr, hkey', hle⟩ := hs x hx hpos
    obtain rfl := s.system.store.credentials.valid.credential_id.eq hr hrow rfl rfl
      (hkey'.trans (hid.trans hkey.symm))
    exact hle
  have haccepted : acceptedBy W s.system (.finish now n)
      = some ⟨stored.credentialId, row.signCount, count⟩ :=
    acceptedBy_finish.2 ⟨c, stored, count, hc, hlooked, hcount, by rw [hb]; rfl⟩
  unfold countedStep CountsKept CountsGrow
  rw [haccepted]
  refine ⟨fun x hx hpos => ?_, List.pairwise_append.2 ⟨hgrow, List.pairwise_singleton _ _, ?_⟩⟩
  · rw [hstore]
    rcases List.mem_append.1 hx with hx | hx
    · have hle := hbefore x hx
      obtain ⟨r, hr, hid, hle'⟩ := hs x hx hpos
      rw [← hid] at hle ⊢
      refine counted_updateSignCount hr ?_
      split
      · next hwritten =>
        have := hle hwritten.1 hpos
        omega
      · exact hle'
    · obtain rfl := List.mem_singleton.1 hx
      show Counted _ stored.credentialId count
      rw [← hkey]
      refine counted_updateSignCount hrow ?_
      dsimp only at hpos
      split
      · exact le_refl count
      · next hsame =>
        have : count = stored.signCount := not_not.1 fun hne => hsame ⟨hkey, hne⟩
        omega
  · intro x hx y hy hid hne
    obtain rfl := List.mem_singleton.1 hy
    have := hbefore x hx hid
    dsimp only at hne ⊢
    omega

/-- What has been claimed is so in the table. -/
structure ClaimsKept (s : CountedSystem) : Prop where
  consumed : ∀ id ∈ s.claimed, Consumed s.system.store id
  nodup : s.claimed.Nodup

theorem ClaimsKept.step (W : WebauthnEnv) (s : CountedSystem) (a : WebauthnStep)
    (hs : ClaimsKept s) : ClaimsKept (countedStep W s a) := by
  have hclaim := claimedBy_spec W s.system a
  have hconsumed := fun id hid => (step_counts W s.system a).1 id (hs.consumed id hid)
  unfold countedStep
  generalize claimedBy s.system a = claimed at hclaim
  cases claimed with
  | none => exact ⟨by simpa using hconsumed, by simpa using hs.nodup⟩
  | some x =>
    obtain ⟨hnew, hx⟩ := hclaim x rfl
    refine ⟨fun id hid => ?_, List.nodup_append.2 ⟨hs.nodup, List.nodup_singleton x, ?_⟩⟩
    · rcases List.mem_append.1 hid with hid | hid
      · exact hconsumed id hid
      · exact List.mem_singleton.1 hid ▸ hx
    · rintro id hid _ hx' rfl
      exact hnew (List.mem_singleton.1 hx' ▸ hs.consumed id hid)

/-- **Each challenge is claimed once in every run, and the counters grow in those whose assertions
go on from the row.**  A claim consumes its challenge, which is not claimed again.  A counter that
was accepted is that of the row or below, and an assertion that goes on from the row exceeds it.
-/
theorem counters_grow (W : WebauthnEnv) (steps : List WebauthnStep) :
    (exec (countedStep W) .empty steps).claimed.Nodup ∧
      (Along (countedStep W) (fun s => Uncloned W s.system) .empty steps →
        CountsGrow (exec (countedStep W) .empty steps).accepted) := by
  have hnone : ∀ x ∈ CountedSystem.empty.accepted, 0 < x.count →
      Counted CountedSystem.empty.system.store x.credentialId x.count :=
    fun x hx => absurd hx List.not_mem_nil
  have hunclaimed : ClaimsKept .empty :=
    ⟨fun id hid => absurd hid List.not_mem_nil, List.nodup_nil⟩
  refine ⟨(exec_invariant (ClaimsKept.step W) hunclaimed steps).nodup, fun h => ?_⟩
  exact (h.invariant (I := fun s => CountsKept s ∧ CountsGrow s.accepted)
    (fun s a hs ha => hs.1.step hs.2 ha) ⟨hnone, List.Pairwise.nil⟩).2

/-- An authenticator whose counter is the first byte of its data. -/
def toyCounting : WebauthnEnv where
  toPlatform := .toy
  wax := { toyWax with
    authenticate := fun now id authData signature clientData challenge keys =>
      (toyWax.authenticate now id authData signature clientData challenge keys).map
        fun _ => (authData.headD 0).toNat }
  rpId := "elix.cool"

def toyCounted (authenticatorData : String) : Json :=
  .obj [("rawId", .str "AQ"), ("response", .obj [("clientDataJSON", .str ""),
    ("authenticatorData", .str authenticatorData), ("signature", .str "BwU")])]

/-- Alice enrols a credential, which signs in with the counter 5, and then with another one. -/
def toyCountedRun (authenticatorData : String) : List WebauthnStep :=
  [.relay toyAnchored,
    .registrationOptions 0 ⟨"c-1", [5]⟩ "did:plc:alice",
    .finishRegistration 0 "did:plc:alice" "c-1" toyResponse (toySign 1 "c-1.AQ".toList) .null,
    .authenticationOptions 0 ⟨"c-2", [5]⟩ "did:plc:alice" "sync:write",
    .takeAuthentication 0 "did:plc:alice" "c-2" (toyCounted "BQ") "sync:write",
    .look 0 0, .finish 0 0,
    .authenticationOptions 0 ⟨"c-3", [5]⟩ "did:plc:alice" "sync:write",
    .takeAuthentication 0 "did:plc:alice" "c-3" (toyCounted authenticatorData) "sync:write",
    .look 0 1, .finish 0 1]

instance (W : WebauthnEnv) (s : WebauthnSystem) : ∀ a, Decidable (Uncloned W s a)
  | .finish .. => inferInstanceAs (Decidable (∀ c ∈ _, _))
  | .relay .. | .registrationOptions .. | .finishRegistration .. | .authenticationOptions ..
  | .publicationOptions .. | .takeAuthentication .. | .takePublication .. | .look .. | .revoke .. =>
    isTrue trivial

/-- The counter goes from 5 to 6. -/
theorem counters_grow_toy :
    (exec (countedStep toyCounting) .empty (toyCountedRun "Bg")).accepted =
      [⟨[1], 0, 5⟩, ⟨[1], 5, 6⟩] ∧
    CountsGrow (exec (countedStep toyCounting) .empty (toyCountedRun "Bg")).accepted :=
  ⟨by decide +kernel, (counters_grow toyCounting (toyCountedRun "Bg")).2 (by decide +kernel)⟩

/-- **An assertion with the counter zero is accepted over the counter 5.** -/
theorem zero_count_accepted :
    ¬ CountsGrow (exec (countedStep toyCounting) .empty (toyCountedRun "")).accepted := by
  have haccepted : (exec (countedStep toyCounting) .empty (toyCountedRun "")).accepted
      = [⟨[1], 0, 5⟩, ⟨[1], 5, 0⟩] := by decide +kernel
  rw [haccepted]
  intro h
  exact absurd ((List.pairwise_cons.1 h).1 _ (List.mem_singleton_self _) rfl
    (by decide)) (by decide)

end Ansible
