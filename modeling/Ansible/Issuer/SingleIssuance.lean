import Ansible.Issuer.CredentialLaws
import Ansible.Issuer.MembershipIssuer
import Ansible.Lib.Run

/-!
# Single issuance

The records of a run fall into what stays and what is in flight.  `Sound` says of the records
what no later step undoes: a code that was exchanged and a nonce that was accepted are used up,
each once, and the row of a token is bound to its grant.  `InFlight` says of every request at its
stage, and of every credential that was returned, what it has read or written: since rows only go
on (`Extends`), it still holds when other requests have moved in between.  A step keeps both
(`sound_step`, from one lemma for each stage), so every run does, in whichever order the requests
are interleaved.  Two credentials of one token are then read off one row and one recorded hash
(`IsOf.unique`).

## Main results

* `single_issuance` — every run of the issuer has it, with either store.
-/

namespace Ansible.Oid4vci

open Hosted OidIssuer

/-! ### What stays -/

/-- A row of a token goes on: what it was bound to stays, and what it was prepared with. -/
structure Continues (row row' : Access) : Prop where
  copied : row' = { row with
    statusIndex := row'.statusIndex, issuedAt := row'.issuedAt, consumedAt := row'.consumedAt }
  kept : row.statusIndex.isSome → row'.statusIndex = row.statusIndex ∧ row'.issuedAt = row.issuedAt

theorem Continues.refl (row : Access) : Continues row row := ⟨rfl, fun _ => ⟨rfl, rfl⟩⟩

theorem Continues.binds {keepsForum : Bool} {stored : Time → Time} {g : Grant} {expiry : Time}
    {row row' : Access} (h : Continues row row') (hb : Binds keepsForum stored g expiry row) :
    Binds keepsForum stored g expiry row' := by
  rw [h.copied]
  obtain ⟨⟨_, _, _, _, _, _⟩, _, _⟩ := hb
  constructor <;> first | constructor <;> assumption | assumption

section

variable {σ : Type} (orgOf : σ → String → Option String)
  (hashOf : σ → String → String → Option String)

/-- The rows of the tokens go on, the organizations stay and so do the recorded hashes. -/
structure Extends (s t : OidIssuer σ) : Prop where
  access : ∀ h row, s.state.access.lookup h = some row →
    ∃ row', t.state.access.lookup h = some row' ∧ Continues row row'
  org : orgOf t.hosted = orgOf s.hosted
  hash : ∀ tid id h, hashOf s.hosted tid id = some h → hashOf t.hosted tid id = some h

/-- What a request has read of its token: the prepared part is that of the row. -/
def HasRead (E : IssuerEnv) (s : OidIssuer σ) (tenantID accessToken : String) (access : Access) :
    Prop :=
  ∃ row, s.state.access.lookup (E.hash accessToken) = some row ∧ row.tenantID = tenantID ∧
    access.subjectPairwiseDID = row.subjectPairwiseDID ∧
    (access.statusIndex.isSome →
      row.statusIndex = access.statusIndex ∧ row.issuedAt = access.issuedAt)

/-- The credential is the recorded one of its token. -/
def IsOf (E : IssuerEnv) (s : OidIssuer σ) (tenantID accessToken : String)
    (c : IssuedJWTCredential) : Prop :=
  ∃ row org index issuedAt, s.state.access.lookup (E.hash accessToken) = some row ∧
    row.tenantID = tenantID ∧ row.statusIndex = some index ∧ row.issuedAt = some issuedAt ∧
    orgOf s.hosted tenantID = some org ∧
    c.id = E.credentialID (E.credentialIssuerURL tenantID) org row.subjectPairwiseDID index
      issuedAt ∧
    c.hash = E.hash c.jwt ∧ c.issuedAt = issuedAt ∧ c.expiresAt = issuedAt + membershipTTL ∧
    hashOf s.hosted tenantID c.id = some c.hash

/-- What holds of a request at its stage. -/
def StageHolds (E : IssuerEnv) (s : OidIssuer σ) (tenantID accessToken : String) :
    IssueStage → Prop
  | .admitted access _ _ | .authorized access _ => HasRead E s tenantID accessToken access
  | .located access _ tenant | .chosen access _ tenant _ | .reserved access _ tenant _ _
  | .prepared access _ tenant _ =>
    HasRead E s tenantID accessToken access ∧
      orgOf s.hosted tenantID = some tenant.organizationDID
  | .recorded c | .marked c => IsOf orgOf hashOf E s tenantID accessToken c
  | .finished => True

end

variable {σ : Type} {orgOf : σ → String → Option String}
  {hashOf : σ → String → String → Option String} {E : IssuerEnv} {s t : OidIssuer σ}

theorem HasRead.extends {tenantID accessToken : String} {access : Access}
    (h : HasRead E s tenantID accessToken access) (hst : Extends orgOf hashOf s t) :
    HasRead E t tenantID accessToken access := by
  obtain ⟨row, hrow, htenant, hdid, hprepared⟩ := h
  obtain ⟨row', hrow', hgoes⟩ := hst.access _ _ hrow
  refine ⟨row', hrow', ?_, ?_, fun hsome => ?_⟩
  · rw [hgoes.copied]
    exact htenant
  · rw [hgoes.copied]
    exact hdid
  · obtain ⟨hindex, hissued⟩ := hprepared hsome
    obtain ⟨hindex', hissued'⟩ := hgoes.kept (hindex ▸ hsome)
    exact ⟨hindex'.trans hindex, hissued'.trans hissued⟩

theorem IsOf.extends {tenantID accessToken : String} {c : IssuedJWTCredential}
    (h : IsOf orgOf hashOf E s tenantID accessToken c) (hst : Extends orgOf hashOf s t) :
    IsOf orgOf hashOf E t tenantID accessToken c := by
  obtain ⟨row, org, index, issuedAt, hrow, htenant, hindex, hissued, horg, hid, hhash, hat,
    hexpires, hrecorded⟩ := h
  obtain ⟨row', hrow', hgoes⟩ := hst.access _ _ hrow
  obtain ⟨hindex', hissued'⟩ := hgoes.kept (hindex ▸ rfl)
  refine ⟨row', org, index, issuedAt, hrow', ?_, hindex'.trans hindex, hissued'.trans hissued,
    hst.org ▸ horg, ?_, hhash, hat, hexpires, hst.hash _ _ _ hrecorded⟩
  · rw [hgoes.copied]
    exact htenant
  · rw [hgoes.copied]
    exact hid

theorem StageHolds.extends {tenantID accessToken : String} {stage : IssueStage}
    (h : StageHolds orgOf hashOf E s tenantID accessToken stage)
    (hst : Extends orgOf hashOf s t) :
    StageHolds orgOf hashOf E t tenantID accessToken stage := by
  cases stage with
  | admitted => exact HasRead.extends h hst
  | authorized => exact HasRead.extends h hst
  | located => exact ⟨h.1.extends hst, hst.org ▸ h.2⟩
  | chosen => exact ⟨h.1.extends hst, hst.org ▸ h.2⟩
  | reserved => exact ⟨h.1.extends hst, hst.org ▸ h.2⟩
  | prepared => exact ⟨h.1.extends hst, hst.org ▸ h.2⟩
  | recorded => exact IsOf.extends h hst
  | marked => exact IsOf.extends h hst
  | finished => trivial

/-- **A token has one credential.** -/
theorem IsOf.unique (hhash : Function.Injective E.hash) {tenantID tenantID' accessToken : String}
    {c c' : IssuedJWTCredential} (h : IsOf orgOf hashOf E s tenantID accessToken c)
    (h' : IsOf orgOf hashOf E s tenantID' accessToken c') : c = c' := by
  obtain ⟨row, org, index, issuedAt, hrow, htenant, hindex, hissued, horg, hid, hdigest, hat,
    hexpires, hrecorded⟩ := h
  obtain ⟨row', org', index', issuedAt', hrow', htenant', hindex', hissued', horg', hid', hdigest',
    hat', hexpires', hrecorded'⟩ := h'
  obtain rfl : row = row' := Option.some.inj (hrow.symm.trans hrow')
  obtain rfl : tenantID = tenantID' := htenant.symm.trans htenant'
  obtain rfl : index = index' := Option.some.inj (hindex.symm.trans hindex')
  obtain rfl : issuedAt = issuedAt' := Option.some.inj (hissued.symm.trans hissued')
  obtain rfl : org = org' := Option.some.inj (horg.symm.trans horg')
  have hids : c.id = c'.id := hid.trans hid'.symm
  have hhashes : c.hash = c'.hash := by
    rw [hids] at hrecorded
    exact Option.some.inj (hrecorded.symm.trans hrecorded')
  have hjwt : c.jwt = c'.jwt := hhash (hdigest.symm.trans (hhashes.trans hdigest'))
  obtain ⟨id, jwt, hash, at₁, expires⟩ := c
  obtain ⟨id', jwt', hash', at₂, expires'⟩ := c'
  dsimp only at *
  subst hids hhashes hjwt hat hat' hexpires hexpires'
  rfl

/-! ### What holds in every run -/

/-- **What holds of the records**: tokens and nonces are found under texts that were drawn, the
exchanged grants and the accepted nonces are used up, and each of them once. -/
structure Sound (keepsForum : Bool) (stored : Time → Time) (E : IssuerEnv) (s : OidIssuer σ) :
    Prop where
  tokens : ∀ h row, s.state.access.lookup h = some row →
    (∃ n < s.drawn, h = E.hash (tokenPrefix ++ E.draw n)) ∧
      row.statusIndex.isSome = row.issuedAt.isSome ∧ ∀ x ∈ row.issuedAt, 0 < x
  nonces : ∀ h n, s.state.nonces.lookup h = some n → ∃ k < s.drawn, h = E.hash (E.draw k)
  exchanged : ∀ e ∈ s.exchanged, ∃ g row, s.state.grants.lookup e.codeHash = some g ∧
    g.consumedAt.isSome ∧ s.state.access.lookup e.tokenHash = some row ∧
    Binds keepsForum stored g e.expiry row
  codes : (s.exchanged.map (·.codeHash)).Nodup
  accepted : ∀ h ∈ s.accepted, ∃ n, s.state.nonces.lookup h = some n ∧ n.consumedAt.isSome
  once : s.accepted.Nodup

/-- What holds of the requests in flight, and of what was returned. -/
structure InFlight (orgOf : σ → String → Option String)
    (hashOf : σ → String → String → Option String) (E : IssuerEnv) (s : OidIssuer σ) : Prop where
  calls : ∀ call ∈ s.calls, StageHolds orgOf hashOf E s call.tenantID call.accessToken call.stage
  issued : ∀ x ∈ s.issued, ∃ tenantID, IsOf orgOf hashOf E s tenantID x.1 x.2

theorem InFlight.extends (h : InFlight orgOf hashOf E s) (hst : Extends orgOf hashOf s t)
    (hcalls : t.calls = s.calls) (hissued : t.issued = s.issued) : InFlight orgOf hashOf E t where
  calls := by
    intro call hcall
    rw [hcalls] at hcall
    exact (h.calls call hcall).extends hst
  issued := by
    intro x hx
    rw [hissued] at hx
    obtain ⟨tenantID, hof⟩ := h.issued x hx
    exact ⟨tenantID, hof.extends hst⟩

theorem Extends.of_eq (haccess : t.state.access = s.state.access) (hhosted : t.hosted = s.hosted) :
    Extends orgOf hashOf s t where
  access := fun h row hrow => ⟨row, haccess ▸ hrow, Continues.refl row⟩
  org := congrArg orgOf hhosted
  hash := by
    intro tid id h hh
    rw [hhosted]
    exact hh

theorem Sound.hosted {keepsForum : Bool} {stored : Time → Time}
    (h : Sound keepsForum stored E s) (hosted : σ) :
    Sound keepsForum stored E { s with hosted } :=
  ⟨h.tokens, h.nonces, h.exchanged, h.codes, h.accepted, h.once⟩

section

variable {keepsForum : Bool} {stored : Time → Time}

variable (orgOf hashOf) in
/-- A row of a token that goes on. -/
theorem Sound.continue (h : Sound keepsForum stored E s) {token : String} {row row' : Access}
    {state : StateTables} (hrow : s.state.access.lookup token = some row)
    (hgoes : Continues row row') (hboth : row'.statusIndex.isSome = row'.issuedAt.isSome)
    (hpositive : ∀ x ∈ row'.issuedAt, 0 < x) (hgrants : state.grants = s.state.grants)
    (hnonces : state.nonces = s.state.nonces)
    (haccess : ∀ k, state.access.lookup k =
      if k = token then some row' else s.state.access.lookup k) :
    Sound keepsForum stored E { s with state } ∧
      Extends orgOf hashOf s { s with state } := by
  have hfollows : ∀ k r, s.state.access.lookup k = some r →
      ∃ r', state.access.lookup k = some r' ∧ Continues r r' := by
    intro k r hr
    rw [haccess]
    split
    · rename_i hk
      rw [hk, hrow] at hr
      exact ⟨row', rfl, Option.some.inj hr ▸ hgoes⟩
    · exact ⟨r, hr, Continues.refl r⟩
  refine ⟨⟨?_, ?_, ?_, h.codes, ?_, h.once⟩, hfollows, rfl, fun _ _ _ h => h⟩
  · intro k r hr
    change state.access.lookup k = some r at hr
    rw [haccess] at hr
    split at hr
    · rename_i hk
      cases hr
      exact ⟨(h.tokens k row (hk ▸ hrow)).1, hboth, hpositive⟩
    · exact h.tokens k r hr
  · intro k n hn
    exact h.nonces k n (hnonces ▸ hn)
  · intro e he
    obtain ⟨g, r, hg, hconsumed, hr, hbinds⟩ := h.exchanged e he
    obtain ⟨r', hr', hgoes'⟩ := hfollows _ _ hr
    exact ⟨g, r', hgrants.symm ▸ hg, hconsumed, hr', hgoes'.binds hbinds⟩
  · intro k hk
    obtain ⟨n, hn, hconsumed⟩ := h.accepted k hk
    exact ⟨n, hnonces.symm ▸ hn, hconsumed⟩

variable {S : StateStore} (hS : StateLaws S keepsForum stored)

include hS

theorem Sound.createGrant (h : Sound keepsForum stored E s)
    (tenantID configurationID did membershipClass forumHostID boardID : String) (now : Time) :
    Sound keepsForum stored E
      (createGrant E S tenantID configurationID did membershipClass forumHostID boardID now s) := by
  unfold OidIssuer.createGrant
  split
  · exact h
  split
  · exact h
  dsimp only
  generalize hgrant : Grant.mk _ _ _ _ _ _ _ _ _ _ = grant
  have hput := hS.putGrant grant s.state _ _ rfl
  generalize (S.putGrant grant s.state).2 = state at hput
  have hdrawn : ∀ {n}, n < s.drawn → n < s.drawn + 1 := fun hn => Nat.lt_succ_of_lt hn
  have htables : state.access = s.state.access ∧ state.nonces = s.state.nonces ∧
      ∀ code g, s.state.grants.lookup code = some g → state.grants.lookup code = some g := by
    rcases hput with rfl | ⟨hnew, g', rfl⟩
    · exact ⟨rfl, rfl, fun _ _ hg => hg⟩
    · refine ⟨rfl, rfl, fun code g hg => ?_⟩
      rw [Assoc.lookup_insert', if_neg]
      · exact hg
      · rintro rfl
        rw [hnew] at hg
        cases hg
  obtain ⟨haccess, hnonces, hgrants⟩ := htables
  refine ⟨?_, ?_, ?_, h.codes, ?_, h.once⟩
  · intro k row hrow
    obtain ⟨⟨n, hn, hk⟩, hrest⟩ := h.tokens k row (haccess ▸ hrow)
    exact ⟨⟨n, hdrawn hn, hk⟩, hrest⟩
  · intro k n hn
    obtain ⟨i, hi, hk⟩ := h.nonces k n (hnonces ▸ hn)
    exact ⟨i, hdrawn hi, hk⟩
  · intro e he
    obtain ⟨g, row, hg, hconsumed, hrow, hbinds⟩ := h.exchanged e he
    exact ⟨g, row, hgrants _ _ hg, hconsumed, haccess.symm ▸ hrow, hbinds⟩
  · intro k hk
    obtain ⟨n, hn, hconsumed⟩ := h.accepted k hk
    exact ⟨n, hnonces.symm ▸ hn, hconsumed⟩

theorem Sound.issueNonce (h : Sound keepsForum stored E s) (hhash : Function.Injective E.hash)
    (hdraw : Function.Injective E.draw) (now : Time) :
    Sound keepsForum stored E (issueNonce E S now s) := by
  unfold OidIssuer.issueNonce
  dsimp only
  have hput := hS.putNonce ⟨E.hash (E.draw s.drawn), now + minutes 2, none⟩ s.state _ _ rfl
  generalize (S.putNonce _ s.state).2 = state at hput
  have hdrawn : ∀ {n}, n < s.drawn → n < s.drawn + 1 := fun hn => Nat.lt_succ_of_lt hn
  have hfresh : ∀ k n, s.state.nonces.lookup k = some n → k ≠ E.hash (E.draw s.drawn) := by
    rintro k n hn rfl
    obtain ⟨i, hi, hk⟩ := h.nonces _ n hn
    exact absurd (hdraw (hhash hk)) (Nat.ne_of_gt hi)
  have htables : state.access = s.state.access ∧ state.grants = s.state.grants ∧
      (∀ k n, s.state.nonces.lookup k = some n → state.nonces.lookup k = some n) ∧
      ∀ k n, state.nonces.lookup k = some n → ∃ i < s.drawn + 1, k = E.hash (E.draw i) := by
    have hold : ∀ k n, s.state.nonces.lookup k = some n → ∃ i < s.drawn + 1,
        k = E.hash (E.draw i) := by
      intro k n hn
      obtain ⟨i, hi, hk⟩ := h.nonces k n hn
      exact ⟨i, hdrawn hi, hk⟩
    rcases hput with rfl | ⟨n', rfl⟩
    · exact ⟨rfl, rfl, fun _ _ hn => hn, hold⟩
    · refine ⟨rfl, rfl, fun k n hn => ?_, fun k n hn => ?_⟩
      · rw [Assoc.lookup_insert', if_neg (hfresh k n hn)]
        exact hn
      · rw [Assoc.lookup_insert'] at hn
        split at hn
        · rename_i hk
          exact ⟨s.drawn, Nat.lt_succ_self _, hk⟩
        · exact hold k n hn
  obtain ⟨haccess, hgrants, hkept, hkeys⟩ := htables
  refine ⟨?_, hkeys, ?_, h.codes, ?_, h.once⟩
  · intro k row hrow
    obtain ⟨⟨n, hn, hk⟩, hrest⟩ := h.tokens k row (haccess ▸ hrow)
    exact ⟨⟨n, hdrawn hn, hk⟩, hrest⟩
  · intro e he
    obtain ⟨g, row, hg, hconsumed, hrow, hbinds⟩ := h.exchanged e he
    exact ⟨g, row, hgrants.symm ▸ hg, hconsumed, haccess.symm ▸ hrow, hbinds⟩
  · intro k hk
    obtain ⟨n, hn, hconsumed⟩ := h.accepted k hk
    exact ⟨n, hkept k n hn, hconsumed⟩

variable (orgOf hashOf) in
/-- **A code is exchanged once**, for a token with what its grant says. -/
theorem Sound.exchange (h : Sound keepsForum stored E s) (hhash : Function.Injective E.hash)
    (hdraw : Function.Injective E.draw) (code tenantID : String) (first now : Time) :
    Sound keepsForum stored E (exchange E S code tenantID first now s) ∧
      Extends orgOf hashOf s (exchange E S code tenantID first now s) := by
  unfold OidIssuer.exchange
  split
  · exact ⟨h, Extends.of_eq rfl rfl⟩
  unfold exchangeFor
  dsimp only
  have hdrawn : ∀ {n}, n < s.drawn → n < s.drawn + 1 := fun hn => Nat.lt_succ_of_lt hn
  -- the token is drawn anew, so no row has its digest
  have hfresh : ∀ k row, s.state.access.lookup k = some row →
      k ≠ E.hash (tokenPrefix ++ E.draw s.drawn) := by
    rintro k row hrow rfl
    obtain ⟨⟨n, hn, hk⟩, -⟩ := h.tokens _ row hrow
    have hsame : tokenPrefix ++ E.draw s.drawn = tokenPrefix ++ E.draw n := hhash hk
    have : (E.draw s.drawn).toList = (E.draw n).toList := by
      have := congrArg String.toList hsame
      rw [String.toList_append, String.toList_append] at this
      exact List.append_cancel_left this
    exact absurd (hdraw (String.toList_inj.1 this)) (Nat.ne_of_gt hn)
  cases hexchange : S.exchangeGrant (E.hash code) tenantID
      (E.hash (tokenPrefix ++ E.draw s.drawn)) (first + minutes 5) now s.state with
  | mk result state =>
    have hnonces : ∀ k n, s.state.nonces.lookup k = some n → ∃ i < s.drawn + 1,
        k = E.hash (E.draw i) := by
      intro k n hn
      obtain ⟨i, hi, hk⟩ := h.nonces k n hn
      exact ⟨i, hdrawn hi, hk⟩
    have htokens : ∀ k row, s.state.access.lookup k = some row →
        (∃ n < s.drawn + 1, k = E.hash (tokenPrefix ++ E.draw n)) ∧
          row.statusIndex.isSome = row.issuedAt.isSome ∧ ∀ x ∈ row.issuedAt, 0 < x := by
      intro k row hrow
      obtain ⟨⟨n, hn, hk⟩, hrest⟩ := h.tokens k row hrow
      exact ⟨⟨n, hdrawn hn, hk⟩, hrest⟩
    rcases hS.exchangeGrant _ _ _ _ _ _ _ _ hexchange with
      ⟨e, rfl, rfl⟩ | ⟨g, a, stamp, hg, -, hopen, hbinds, hindex, hissued, hok, rfl⟩
    · exact ⟨⟨htokens, hnonces, h.exchanged, h.codes, h.accepted, h.once⟩, Extends.of_eq rfl rfl⟩
    · obtain ⟨access, rfl⟩ := hok
      -- a code that was exchanged has a consumed grant, and this one's is open
      have hnew : ∀ e ∈ s.exchanged, e.codeHash ≠ E.hash code := by
        intro e he heq
        obtain ⟨g', row, hg', hconsumed, -, -⟩ := h.exchanged e he
        rw [heq, hg] at hg'
        rw [← Option.some.inj hg', hopen] at hconsumed
        cases hconsumed
      refine ⟨⟨?_, hnonces, ?_, ?_, h.accepted, h.once⟩, ?_, rfl, fun _ _ _ h => h⟩
      · intro k row hrow
        change (s.state.access.insert _ a).lookup k = some row at hrow
        rw [Assoc.lookup_insert'] at hrow
        split at hrow
        · rename_i hk
          cases hrow
          refine ⟨⟨s.drawn, Nat.lt_succ_self _, hk⟩, by rw [hindex, hissued], ?_⟩
          intro x hx
          rw [hissued] at hx
          cases hx
        · exact htokens k row hrow
      · intro e he
        rcases List.mem_append.1 he with he | he
        · obtain ⟨g', row, hg', hconsumed, hrow, hbinds'⟩ := h.exchanged e he
          refine ⟨g', row, ?_, hconsumed, ?_, hbinds'⟩
          · show (s.state.grants.insert _ _).lookup e.codeHash = some g'
            rw [Assoc.lookup_insert', if_neg (hnew e he)]
            exact hg'
          · show (s.state.access.insert _ a).lookup e.tokenHash = some row
            rw [Assoc.lookup_insert', if_neg (hfresh _ _ hrow)]
            exact hrow
        · rw [List.mem_singleton.1 he]
          refine ⟨{ g with consumedAt := some stamp }, a, AList.lookup_insert _, rfl,
            AList.lookup_insert _, ?_⟩
          exact ⟨⟨hbinds.copies.tenantID, hbinds.copies.credentialConfigurationID,
            hbinds.copies.subjectPairwiseHash, hbinds.copies.subjectPairwiseDID,
            hbinds.copies.membershipClass, hbinds.copies.boardID⟩, hbinds.forumHostID,
            hbinds.expiresAt⟩
      · show ((s.exchanged ++ [(_ : Exchange)]).map (·.codeHash)).Nodup
        rw [List.map_append]
        refine List.Nodup.append h.codes (List.nodup_singleton _) ?_
        intro k hk hk'
        obtain ⟨e, he, rfl⟩ := List.mem_map.1 hk
        exact hnew e he (List.mem_singleton.1 hk')
      · intro k row hrow
        refine ⟨row, ?_, Continues.refl row⟩
        show (s.state.access.insert _ a).lookup k = some row
        rw [Assoc.lookup_insert', if_neg (hfresh k row hrow)]
        exact hrow

variable (orgOf hashOf) in
/-- **A nonce is accepted once.** -/
theorem Sound.consumeNonce (h : Sound keepsForum stored E s) (nonce : String) (now : Time) :
    Sound keepsForum stored E (consumeNonce E S nonce now s).2 ∧
      Extends orgOf hashOf s (consumeNonce E S nonce now s).2 ∧
      (consumeNonce E S nonce now s).2.calls = s.calls ∧
      (consumeNonce E S nonce now s).2.issued = s.issued := by
  unfold OidIssuer.consumeNonce
  cases hconsume : S.consumeNonce (E.hash nonce) now s.state with
  | mk result state =>
    rcases hS.consumeNonce _ _ _ _ _ hconsume with
      ⟨e, rfl, rfl⟩ | ⟨n, stamp, hn, hopen, hok, rfl⟩
    · exact ⟨h, Extends.of_eq rfl rfl, rfl, rfl⟩
    · obtain ⟨done, rfl⟩ := hok
      have hnew : E.hash nonce ∉ s.accepted := by
        intro hmem
        obtain ⟨n', hn', hconsumed⟩ := h.accepted _ hmem
        rw [hn] at hn'
        rw [← Option.some.inj hn', hopen] at hconsumed
        cases hconsumed
      refine ⟨⟨h.tokens, ?_, h.exchanged, h.codes, ?_, ?_⟩, Extends.of_eq rfl rfl, rfl, rfl⟩
      · intro k m hm
        change (s.state.nonces.insert _ _).lookup k = some m at hm
        rw [Assoc.lookup_insert'] at hm
        split at hm
        · rename_i hk
          exact h.nonces k n (hk ▸ hn)
        · exact h.nonces k m hm
      · intro k hk
        show ∃ m, (s.state.nonces.insert _ _).lookup k = some m ∧ m.consumedAt.isSome
        rw [Assoc.lookup_insert']
        split
        · exact ⟨_, rfl, rfl⟩
        · rename_i hne
          rcases List.mem_append.1 hk with hk | hk
          · exact h.accepted k hk
          · exact absurd (List.mem_singleton.1 hk) hne
      · refine List.Nodup.append h.once (List.nodup_singleton _) ?_
        intro k hk hk'
        exact hnew (List.mem_singleton.1 hk' ▸ hk)

end

/-! ### Requests -/

section

variable {keepsForum : Bool} {stored : Time → Time} {S : StateStore} {H : StoreOps σ}

/-- The credential of a prepared token. -/
theorem issueMembershipJWT_spec {signer : Signer} {clock : Time} {r : MembershipIssueRequest}
    {c : IssuedJWTCredential} (h : issueMembershipJWT E signer clock r = some c)
    (hnow : 0 < r.now) :
    c.id = E.credentialID r.issuerURL r.issuerDID r.holderPairwiseDID r.statusListIndex r.now ∧
      c.hash = E.hash c.jwt ∧ c.issuedAt = r.now ∧ c.expiresAt = r.now + membershipTTL := by
  unfold issueMembershipJWT at h
  split at h
  · cases h
  rw [if_neg (Int.ne_of_gt hnow)] at h
  obtain ⟨signature, -, rfl⟩ := Option.map_eq_some_iff.1 h
  exact ⟨rfl, rfl, rfl, rfl⟩

/-- **What a step of a request leaves**: sound records in which what was there goes on, the stage
that is reached, and at most one credential more among those that were returned. -/
structure Advances (keepsForum : Bool) (stored : Time → Time) (orgOf : σ → String → Option String)
    (hashOf : σ → String → String → Option String) (E : IssuerEnv) (s : OidIssuer σ)
    (tenantID accessToken : String) (out : IssueStage × OidIssuer σ) : Prop where
  sound : Sound keepsForum stored E out.2
  ext : Extends orgOf hashOf s out.2
  stage : StageHolds orgOf hashOf E out.2 tenantID accessToken out.1
  calls : out.2.calls = s.calls
  issued : out.2.issued = s.issued ∨ ∃ c, out.2.issued = s.issued ++ [(accessToken, c)] ∧
    IsOf orgOf hashOf E out.2 tenantID accessToken c

variable {tenantID accessToken : String} {access : Access} {jwk : HolderJWK} {tenant : Tenant}
  {active : ActiveSigner} {c : IssuedJWTCredential}

section

variable (h : Sound keepsForum stored E s) (x : IssueInput)
include h

theorem Sound.moves {stage : IssueStage}
    (hstage : StageHolds orgOf hashOf E s tenantID accessToken stage) :
    Advances keepsForum stored orgOf hashOf E s tenantID accessToken (stage, s) :=
  ⟨h, Extends.of_eq rfl rfl, hstage, rfl, .inl rfl⟩

/-- A step that writes to the store of the hosted issuer. -/
theorem Sound.writes {hosted : σ} (horg : orgOf hosted = orgOf s.hosted)
    (hhash : ∀ tid id k, hashOf s.hosted tid id = some k → hashOf hosted tid id = some k)
    {stage : IssueStage}
    (hstage : Extends orgOf hashOf s { s with hosted } →
      StageHolds orgOf hashOf E { s with hosted } tenantID accessToken stage) :
    Advances keepsForum stored orgOf hashOf E s tenantID accessToken
      (stage, { s with hosted }) := by
  have hext : Extends orgOf hashOf s { s with hosted } :=
    ⟨fun _ row hrow => ⟨row, hrow, Continues.refl row⟩, horg, hhash⟩
  exact ⟨h.hosted hosted, hext, hstage hext, rfl, .inl rfl⟩

/-- An index is reserved, unless the token has one. -/
theorem Sound.chosen (hH : CredentialLaws H orgOf hashOf)
    (hstage : HasRead E s tenantID accessToken access ∧
      orgOf s.hosted tenantID = some tenant.organizationDID) :
    Advances keepsForum stored orgOf hashOf E s tenantID accessToken
      (nextStage E S H tenantID accessToken x s (.chosen access jwk tenant active)) := by
  rw [nextStage]
  split
  · exact h.moves hstage
  cases hreserve : H.reserveStatusIndex tenantID x.draws s.hosted with
  | mk result hosted =>
    obtain ⟨horg, hhash⟩ := hH.reserveStatusIndex _ _ _ _ _ hreserve
    have hkept : ∀ tid id k, hashOf s.hosted tid id = some k → hashOf hosted tid id = some k :=
      fun _ _ _ hk => hhash ▸ hk
    cases result with
    | ok index => exact h.writes horg hkept fun hext => ⟨hstage.1.extends hext, horg ▸ hstage.2⟩
    | error e => exact h.writes horg hkept fun _ => trivial

/-- The token is prepared with the index: the row goes on, whoever has prepared it first. -/
theorem Sound.reserved (hS : StateLaws S keepsForum stored) {index : ℤ}
    (hstage : HasRead E s tenantID accessToken access ∧
      orgOf s.hosted tenantID = some tenant.organizationDID) :
    Advances keepsForum stored orgOf hashOf E s tenantID accessToken
      (nextStage E S H tenantID accessToken x s (.reserved access jwk tenant active index)) := by
  rw [nextStage]
  cases hprepare : S.prepareAccess (E.hash accessToken) index x.issuedAt.instant x.now.instant
      s.state with
  | mk result state =>
    rcases hS.prepareAccess _ _ _ _ _ _ _ hprepare with
      ⟨e, rfl, rfl⟩ | ⟨row, row', rfl, hrow, hprepares, hgrants, hnonces, haccess⟩
    · exact h.moves trivial
    obtain ⟨-, hboth, hpositive⟩ := h.tokens _ row hrow
    obtain ⟨hindex, hissued⟩ := hprepares.prepared hboth
    have hgoes : Continues row row' := by
      refine ⟨?_, fun hsome => ?_⟩
      · have hcopied := hprepares.copied
        rw [hcopied]
      · rw [hprepares.kept hboth hsome]
        exact ⟨rfl, rfl⟩
    -- the instant is the one that was there, or that of the clock as the store keeps it
    have hlate : ∀ y ∈ row'.issuedAt, 0 < y := by
      intro y hy
      have hclock := x.issuedAt.late
      rcases hprepares.stamped y hy with hold | rfl | rfl
      · exact hpositive y hold
      · exact Int.lt_of_lt_of_le (by decide) hclock
      · have : 1 ≤ x.issuedAt.instant / 1000 := Int.le_ediv_of_mul_le (by decide) hclock
        show (0 : ℤ) < x.issuedAt.instant / 1000 * 1000
        exact Int.mul_pos (Int.lt_of_lt_of_le (by decide) this) (by decide)
    obtain ⟨hsound, hext⟩ := h.continue orgOf hashOf hrow hgoes
      (hindex.trans hissued.symm) hlate hgrants hnonces haccess
    refine ⟨hsound, hext, ⟨?_, hstage.2⟩, rfl, .inl rfl⟩
    obtain ⟨old, hold, htenant, -, -⟩ := hstage.1
    obtain rfl : row = old := Option.some.inj (hrow.symm.trans hold)
    refine ⟨row', ?_, ?_, rfl, fun _ => ⟨rfl, rfl⟩⟩
    · show state.access.lookup (E.hash accessToken) = some row'
      rw [haccess, if_pos rfl]
    · rw [hgoes.copied]
      exact htenant

/-- The credential is signed for what the token was prepared with, and recorded. -/
theorem Sound.prepared (hH : CredentialLaws H orgOf hashOf)
    (hstage : HasRead E s tenantID accessToken access ∧
      orgOf s.hosted tenantID = some tenant.organizationDID) :
    Advances keepsForum stored orgOf hashOf E s tenantID accessToken
      (nextStage E S H tenantID accessToken x s (.prepared access jwk tenant active)) := by
  rw [nextStage]
  split
  · rename_i index issuedAt hindex hissued
    obtain ⟨⟨row, hrow, htenant, hdid, hprepared⟩, horg⟩ := hstage
    obtain ⟨hindex', hissued'⟩ := hprepared (hindex ▸ rfl)
    have hpositive : 0 < issuedAt :=
      (h.tokens _ row hrow).2.2 issuedAt (hissued'.trans hissued)
    cases hsigned : issueMembershipJWT E active.signer x.now.instant
        (issueRequest E tenantID access jwk tenant index issuedAt) with
    | none => exact h.moves trivial
    | some c =>
      obtain ⟨hid, hdigest, hat, hexpires⟩ := issueMembershipJWT_spec hsigned hpositive
      dsimp only
      cases hput : H.putCredentialRecord tenantID (credentialRecord E access active index c)
          s.hosted with
      | mk result hosted =>
        obtain ⟨horg', hkept, hrecorded⟩ := hH.putCredentialRecord _ _ _ _ _ hput
        cases result with
        | error e => exact h.writes horg' hkept fun _ => trivial
        | ok done =>
          refine h.writes horg' hkept fun _ => ⟨row, tenant.organizationDID, index, issuedAt, hrow,
            htenant, hindex'.trans hindex, hissued'.trans hissued, horg' ▸ horg, ?_, hdigest, hat,
            hexpires, hrecorded rfl⟩
          rw [hid, ← hdid]
          rfl
  · exact h.moves trivial

/-- The token is marked. -/
theorem Sound.recorded (hS : StateLaws S keepsForum stored)
    (hstage : IsOf orgOf hashOf E s tenantID accessToken c) :
    Advances keepsForum stored orgOf hashOf E s tenantID accessToken
      (nextStage E S H tenantID accessToken x s (.recorded c)) := by
  rw [nextStage]
  cases hconsume : S.consumeAccess (E.hash accessToken) x.now.instant s.state with
  | mk result state =>
    have hgoes : Sound keepsForum stored E { s with state } ∧
        Extends orgOf hashOf s { s with state } := by
      rcases hS.consumeAccess _ _ _ _ _ hconsume with rfl | ⟨row, consumedAt, hrow, rfl⟩
      · exact ⟨h, Extends.of_eq rfl rfl⟩
      · obtain ⟨-, hboth, hpositive⟩ := h.tokens _ row hrow
        have hmarked : Continues row { row with consumedAt } := ⟨rfl, fun _ => ⟨rfl, rfl⟩⟩
        exact h.continue orgOf hashOf hrow hmarked hboth hpositive rfl rfl
          fun k => Assoc.lookup_insert' _ _ _ _
    obtain ⟨hsound, hext⟩ := hgoes
    cases result with
    | ok done => exact ⟨hsound, hext, IsOf.extends hstage hext, rfl, .inl rfl⟩
    | error e => exact ⟨hsound, hext, trivial, rfl, .inl rfl⟩

/-- The credential is returned once the event is in the audit log. -/
theorem Sound.marked (hH : CredentialLaws H orgOf hashOf)
    (hstage : IsOf orgOf hashOf E s tenantID accessToken c) :
    Advances keepsForum stored orgOf hashOf E s tenantID accessToken
      (nextStage E S H tenantID accessToken x s (.marked c)) := by
  rw [nextStage]
  cases haudit : H.appendAudit tenantID (auditEvent E tenantID x.auditID c x.now.instant)
      s.hosted with
  | mk result hosted =>
    obtain ⟨horg, hhash⟩ := hH.appendAudit _ _ _ _ _ haudit
    have hfinished : Advances keepsForum stored orgOf hashOf E s tenantID accessToken
        (.finished, { s with hosted }) :=
      h.writes horg (fun tid id k hk => hhash ▸ hk) fun _ => trivial
    cases result with
    | ok done =>
      obtain ⟨haccess, horg, hhash⟩ := hfinished.ext
      exact ⟨⟨h.tokens, h.nonces, h.exchanged, h.codes, h.accepted, h.once⟩,
        ⟨haccess, horg, hhash⟩, trivial, rfl,
        .inr ⟨c, rfl, IsOf.extends hstage ⟨haccess, horg, hhash⟩⟩⟩
    | error e => exact hfinished

end

/-- **What a step of a request does**, at each stage. -/
theorem nextStage_spec (hS : StateLaws S keepsForum stored) (hH : CredentialLaws H orgOf hashOf)
    (h : Sound keepsForum stored E s) {stage : IssueStage}
    (hstage : StageHolds orgOf hashOf E s tenantID accessToken stage) (x : IssueInput) :
    Advances keepsForum stored orgOf hashOf E s tenantID accessToken
      (nextStage E S H tenantID accessToken x s stage) := by
  cases stage with
  | admitted access nonce jwk =>
    have hconsume := h.consumeNonce orgOf hashOf hS nonce x.now.instant
    rw [nextStage]
    generalize consumeNonce E S nonce x.now.instant s = out at hconsume
    obtain ⟨accepted, t⟩ := out
    obtain ⟨hsound, hext, hcalls, hissued⟩ := hconsume
    cases accepted with
    | true => exact ⟨hsound, hext, HasRead.extends hstage hext, hcalls, .inl hissued⟩
    | false => exact ⟨hsound, hext, trivial, hcalls, .inl hissued⟩
  | authorized access jwk =>
    rw [nextStage]
    cases htenant : H.tenant tenantID s.hosted with
    | ok tenant => exact h.moves ⟨hstage, hH.tenant _ _ _ htenant⟩
    | error e => exact h.moves trivial
  | located access jwk tenant =>
    rw [nextStage]
    cases x.active with
    | none => exact h.moves trivial
    | some active =>
      dsimp only
      split
      · exact h.moves hstage
      · exact h.moves trivial
  | chosen access jwk tenant active => exact h.chosen x hH hstage
  | reserved access jwk tenant active index => exact h.reserved x hS hstage
  | prepared access jwk tenant active => exact h.prepared x hH hstage
  | recorded c => exact h.recorded x hS hstage
  | marked c => exact h.marked x hH hstage
  | finished => exact h.moves hstage

theorem exchange_frame (E : IssuerEnv) (S : StateStore) (code tenantID : String) (first now : Time)
    (s : OidIssuer σ) : (exchange E S code tenantID first now s).calls = s.calls ∧
      (exchange E S code tenantID first now s).issued = s.issued := by
  unfold OidIssuer.exchange
  split
  · exact ⟨rfl, rfl⟩
  unfold exchangeFor
  split <;> exact ⟨rfl, rfl⟩

/-- **What every step keeps.** -/
theorem sound_step (hS : StateLaws S keepsForum stored) (hH : CredentialLaws H orgOf hashOf)
    (hhash : Function.Injective E.hash) (hdraw : Function.Injective E.draw) (e : OidEvent)
    (h : Sound keepsForum stored E s ∧ InFlight orgOf hashOf E s) :
    Sound keepsForum stored E (step E S H s e) ∧ InFlight orgOf hashOf E (step E S H s e) := by
  obtain ⟨hsound, hflight⟩ := h
  cases e with
  | createGrant tenantID configurationID did membershipClass forumHostID boardID now =>
    refine ⟨hsound.createGrant hS _ _ _ _ _ _ _, ?_⟩
    have hext : Extends orgOf hashOf s (createGrant E S tenantID configurationID did membershipClass
        forumHostID boardID now.instant s) ∧ (createGrant E S tenantID configurationID did
        membershipClass forumHostID boardID now.instant s).calls = s.calls ∧
        (createGrant E S tenantID configurationID did membershipClass forumHostID boardID
          now.instant s).issued = s.issued := by
      unfold OidIssuer.createGrant
      split
      · exact ⟨Extends.of_eq rfl rfl, rfl, rfl⟩
      split
      · exact ⟨Extends.of_eq rfl rfl, rfl, rfl⟩
      refine ⟨Extends.of_eq ?_ rfl, rfl, rfl⟩
      dsimp only
      rcases hS.putGrant _ s.state _ _ rfl with hsame | ⟨-, g', hput⟩
      · rw [hsame]
      · rw [hput]
    exact hflight.extends hext.1 hext.2.1 hext.2.2
  | exchange code tenantID start now =>
    obtain ⟨hnext, hext⟩ := hsound.exchange orgOf hashOf hS hhash hdraw code
      tenantID start.instant now.instant
    obtain ⟨hcalls, hissued⟩ := exchange_frame E S code tenantID start.instant now.instant s
    exact ⟨hnext, hflight.extends hext hcalls hissued⟩
  | issueNonce now =>
    refine ⟨hsound.issueNonce hS hhash hdraw now.instant, hflight.extends (Extends.of_eq ?_ rfl)
      rfl rfl⟩
    show (S.putNonce _ s.state).2.access = s.state.access
    rcases hS.putNonce _ s.state _ _ rfl with hsame | ⟨n', hput⟩
    · rw [hsame]
    · rw [hput]
  | consumeNonce nonce now =>
    obtain ⟨hnext, hext, hcalls, hissued⟩ :=
      hsound.consumeNonce orgOf hashOf hS nonce now.instant
    exact ⟨hnext, hflight.extends hext hcalls hissued⟩
  | request tenantID accessToken proofJWT now checked =>
    unfold step OidIssuer.request
    dsimp only
    split
    · exact ⟨hsound, hflight⟩
    split
    · exact ⟨hsound, hflight⟩
    rename_i access haccess
    split
    · exact ⟨hsound, hflight⟩
    rename_i hbound
    split
    · exact ⟨hsound, hflight⟩
    split
    · exact ⟨hsound, hflight⟩
    refine ⟨⟨hsound.tokens, hsound.nonces, hsound.exchanged, hsound.codes, hsound.accepted,
      hsound.once⟩, ?_, hflight.issued⟩
    intro call hcall
    rcases List.mem_append.1 hcall with hcall | hcall
    · -- the new call has looked up its token and nothing more
      exact (hflight.calls call hcall).extends (Extends.of_eq rfl rfl)
    · rw [List.mem_singleton.1 hcall]
      refine ⟨access, hS.accessByHash _ _ _ _ haccess, ?_, rfl, fun _ => ⟨rfl, rfl⟩⟩
      exact not_not.1 (not_or.1 hbound).1
  | advance i x =>
    -- only a call that moves on can issue a credential
    unfold step advance
    dsimp only
    cases hcall : s.calls[i]? with
    | none => exact ⟨hsound, hflight⟩
    | some call =>
      dsimp only
      obtain ⟨hnext, hext, hstage, hcalls, hissued⟩ := nextStage_spec hS hH hsound
        (hflight.calls call (List.mem_of_getElem? hcall)) x
      generalize nextStage E S H call.tenantID call.accessToken x s call.stage = out at *
      obtain ⟨stage, t⟩ := out
      have hext' : Extends orgOf hashOf s
          { t with calls := s.calls.set i { call with stage := stage } } :=
        ⟨hext.access, hext.org, hext.hash⟩
      have hlast : Extends orgOf hashOf t
          { t with calls := s.calls.set i { call with stage := stage } } := Extends.of_eq rfl rfl
      refine ⟨⟨hnext.tokens, hnext.nonces, hnext.exchanged, hnext.codes, hnext.accepted,
        hnext.once⟩, ?_, ?_⟩
      · intro call' hcall'
        rcases of_mem_set hcall' with rfl | hcall'
        · -- the call that moves on is where its stage says, the others stay where they were
          exact hstage.extends hlast
        · exact (hflight.calls call' hcall').extends hext'
      · intro y hy
        change y ∈ t.issued at hy
        rcases hissued with hsame | ⟨c, happend, hof⟩
        · obtain ⟨tenantID, hy⟩ := hflight.issued y (hsame ▸ hy)
          exact ⟨tenantID, hy.extends hext'⟩
        · rw [happend] at hy
          rcases List.mem_append.1 hy with hy | hy
          · obtain ⟨tenantID, hy⟩ := hflight.issued y hy
            exact ⟨tenantID, hy.extends hext'⟩
          · rw [List.mem_singleton.1 hy]
            exact ⟨call.tenantID, hof.extends hlast⟩

theorem sound_start (hosted : σ) :
    Sound keepsForum stored E (start hosted) ∧ InFlight orgOf hashOf E (start hosted) := by
  refine ⟨⟨?_, ?_, ?_, List.nodup_nil, ?_, List.nodup_nil⟩, ?_, ?_⟩
  · intro k row (h : (∅ : Assoc String Access).lookup k = some row)
    rw [AList.lookup_empty] at h
    cases h
  · intro k n (h : (∅ : Assoc String Nonce).lookup k = some n)
    rw [AList.lookup_empty] at h
    cases h
  · exact fun e he => absurd he List.not_mem_nil
  · exact fun k hk => absurd hk List.not_mem_nil
  · exact fun call hcall => absurd hcall List.not_mem_nil
  · exact fun x hx => absurd hx List.not_mem_nil

end

/-- **A code gives one token**, with what its grant says, **a nonce is accepted once, and a token
gives one credential.**  The forum host of a grant goes with it where the store keeps it, and the
expiry of a token is the one that it is given at the exchange, as the store keeps times. -/
structure SingleIssuance (keepsForum : Bool) (stored : Time → Time) (s : OidIssuer σ) : Prop where
  codes : (s.exchanged.map (·.codeHash)).Nodup
  binds : ∀ e ∈ s.exchanged, ∃ g access, s.state.grants.lookup e.codeHash = some g ∧
    s.state.access.lookup e.tokenHash = some access ∧ Binds keepsForum stored g e.expiry access
  nonces : s.accepted.Nodup
  credentials : ∀ x ∈ s.issued, ∀ y ∈ s.issued, x.1 = y.1 → x.2 = y.2

variable (orgOf hashOf) in
theorem singleIssuance_of_sound {keepsForum : Bool} {stored : Time → Time}
    (hhash : Function.Injective E.hash)
    (h : Sound keepsForum stored E s ∧ InFlight orgOf hashOf E s) :
    SingleIssuance keepsForum stored s where
  codes := h.1.codes
  binds := by
    intro e he
    obtain ⟨g, row, hg, -, hrow, hbinds⟩ := h.1.exchanged e he
    exact ⟨g, row, hg, hrow, hbinds⟩
  nonces := h.1.once
  credentials := by
    rintro ⟨token, c⟩ hc ⟨token', c'⟩ hc' htoken
    obtain rfl : token = token' := htoken
    obtain ⟨tenantID, hof⟩ := h.2.issued _ hc
    obtain ⟨tenantID', hof'⟩ := h.2.issued _ hc'
    exact hof.unique hhash hof'

/-- **Single issuance**, in every run, with the stores in memory and with those over PostgreSQL,
when neither what is drawn nor the digests collide.  In memory nothing is said of the forum host. -/
theorem single_issuance (E : IssuerEnv) (hhash : Function.Injective E.hash)
    (hdraw : Function.Injective E.draw) (server : Server) (tenants : List String)
    (memory : MemoryStore) (postgres : PostgresStore) (events : List OidEvent) :
    SingleIssuance false id
        (exec (step E memoryStateStore MemoryStore.ops) (start memory) events) ∧
      SingleIssuance true (· / 1000 * 1000)
        (exec (step E (postgresStateStore tenants) (PostgresStore.ops server)) (start postgres)
          events) := by
  constructor
  · refine singleIssuance_of_sound memoryOrg memoryHash hhash ?_
    exact exec_invariant (I := fun s => Sound false id E s ∧ InFlight memoryOrg memoryHash E s)
      (fun s e h => sound_step laws_memoryStateStore credentialLaws_memory hhash hdraw e h)
      (sound_start memory) events
  · refine singleIssuance_of_sound postgresOrg postgresHash hhash ?_
    exact exec_invariant
      (I := fun s => Sound true (· / 1000 * 1000) E s ∧ InFlight postgresOrg postgresHash E s)
      (fun s e h => sound_step (laws_postgresStateStore tenants) (credentialLaws_postgres server)
        hhash hdraw e h)
      (sound_start postgres) events

/-! ### A grant and its token -/

def toyHolder : HolderJWK := ⟨"EC", "P-256", "x", "y"⟩

/-- Texts of growing length, and digests that are the texts themselves. -/
def toyIssuer : IssuerEnv where
  hash := id
  draw := fun n => String.ofList (List.replicate (32 + n) 'a')
  baseURL := "https://issuer.example"
  proofNonce := some
  verifyJWTProof := fun _ _ _ _ => some toyHolder

theorem toyIssuer_draw_injective : Function.Injective toyIssuer.draw := by
  intro m n h
  have hlength := congrArg (fun text : String => text.toList.length) h
  simpa [toyIssuer] using hlength

def toyReading (seconds : ℕ) : Reading where
  instant := 63900000000000000000 + 1000000000 * seconds
  late := by
    show (1000 : ℤ) ≤ 63900000000000000000 + 1000000000 * (seconds : ℤ)
    omega

def toySigner : ActiveSigner where
  signer := ⟨eddsaJCS2022, "did:web:party.organizations.example#key", fun _ => some [0]⟩
  credentialTypes := [membershipCredentialType]
  canonicalJSON := "\x7b\x7d"

def toyInput : IssueInput := ⟨toyReading 4, toyReading 4, some toySigner, [7], "event"⟩

/-- A grant for a board and its exchange, which is tried twice; then a nonce, and a request until
its token is prepared. -/
def toyEvents : List OidEvent :=
  [.createGrant "t" membershipConfiguration (pairwiseDID toyHolder) "member" "forum" "board"
      (toyReading 0),
    .exchange (codePrefix ++ toyIssuer.draw 0) "t" (toyReading 1) (toyReading 1),
    .exchange (codePrefix ++ toyIssuer.draw 0) "t" (toyReading 2) (toyReading 2),
    .issueNonce (toyReading 2),
    .request "t" (tokenPrefix ++ toyIssuer.draw 1) (toyIssuer.draw 3) (toyReading 3)
      (toyReading 3)] ++ List.replicate 5 (.advance 0 toyInput)

def toyTenant : Tenant :=
  { id := "t", organizationDID := "did:web:party.organizations.example"
    serviceSlug := "party", status := "active", threshold := 1, administratorCount := 1
    policyVersion := 1, createdAt := 0 }

def toyMemory : OidIssuer MemoryStore :=
  exec (step toyIssuer memoryStateStore MemoryStore.ops)
    (start { tenants := fun tid => if tid = "t" then some toyTenant else none }) toyEvents

def toyPostgres : OidIssuer PostgresStore :=
  exec (step toyIssuer (postgresStateStore ["t"]) (PostgresStore.ops ⟨some, true⟩))
    (start { tenants := (∅ : Assoc String Tenant).insert "t" toyTenant }) toyEvents

/-- A run with both stores: over PostgreSQL the nonce is accepted and an index reserved, in memory
the token has lost the forum host and the request is refused. -/
theorem single_issuance_toy : SingleIssuance false id toyMemory ∧
    SingleIssuance true (· / 1000 * 1000) toyPostgres ∧
    (toyMemory.exchanged.length, toyMemory.accepted, toyPostgres.exchanged.length,
      toyPostgres.accepted, toyPostgres.hosted.statusIndexes "t") =
      (1, [], 1, [toyIssuer.draw 3], [7]) := by
  obtain ⟨hmemory, hpostgres⟩ := single_issuance toyIssuer Function.injective_id
    toyIssuer_draw_injective ⟨some, true⟩ ["t"] _ _ toyEvents
  exact ⟨hmemory, hpostgres, by decide +kernel⟩

/-- A token that has everything of its grant, the expiry included. -/
def CarriesGrant (s : StateTables) (e : Exchange) : Prop :=
  ∃ g access, s.grants.lookup e.codeHash = some g ∧ s.access.lookup e.tokenHash = some access ∧
    Copies g access ∧ access.forumHostID = g.forumHostID ∧ access.expiresAt = g.expiresAt

/-- **A token has an expiry of its own**, in either store. -/
theorem token_expires_by_itself :
    (¬ ∀ e ∈ toyMemory.exchanged, CarriesGrant toyMemory.state e) ∧
      ¬ ∀ e ∈ toyPostgres.exchanged, CarriesGrant toyPostgres.state e := by
  have hdiffer : ∀ {σ : Type} (s : OidIssuer σ) (e : Exchange), e ∈ s.exchanged →
      ((s.state.access.lookup e.tokenHash).map (·.expiresAt)) ≠
        ((s.state.grants.lookup e.codeHash).map (·.expiresAt)) →
      ¬ ∀ e ∈ s.exchanged, CarriesGrant s.state e := by
    intro σ s e he hne hall
    obtain ⟨g, access, hg, haccess, -, -, hexpires⟩ := hall e he
    rw [hg, haccess] at hne
    exact hne (congrArg some hexpires)
  constructor
  · exact hdiffer toyMemory ⟨codePrefix ++ toyIssuer.draw 0, tokenPrefix ++ toyIssuer.draw 1,
      (toyReading 1).instant + minutes 5⟩ (by decide +kernel) (by decide +kernel)
  · exact hdiffer toyPostgres ⟨codePrefix ++ toyIssuer.draw 0, tokenPrefix ++ toyIssuer.draw 1,
      (toyReading 1).instant + minutes 5⟩ (by decide +kernel) (by decide +kernel)

end Ansible.Oid4vci
