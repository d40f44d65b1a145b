import Ansible.Issuer.PostgresStore

/-!
# Grants, access tokens and proof nonces

A wallet exchanges the code of a grant for an access token, and shows with a nonce that it has the
key that the credential is bound to.  The records are kept under the hashes of what the wallet
presents, in memory or over PostgreSQL.

## Main definitions

* `Grant`, `Access`, `Nonce`, `StateTables` — the records.
* `StateStore` — the operations of a store.
* `memoryStateStore`, `postgresStateStore` — the two stores.
* `StateLaws` — what each operation does to the records.

## Main results

* `laws_memoryStateStore`, `laws_postgresStateStore` — **both stores obey the laws.**
-/

namespace Ansible.Oid4vci

open Hosted

/-! ### Records -/

structure Grant where
  codeHash : String
  tenantID : String
  credentialConfigurationID : String
  subjectPairwiseHash : String
  subjectPairwiseDID : String
  membershipClass : String
  forumHostID : String
  boardID : String
  expiresAt : Time
  consumedAt : Option Time := none
  deriving DecidableEq, Repr

structure Access where
  tokenHash : String
  tenantID : String
  credentialConfigurationID : String
  subjectPairwiseHash : String
  subjectPairwiseDID : String
  membershipClass : String
  forumHostID : String
  boardID : String
  issuedAt : Option Time := none
  statusIndex : Option ℤ := none
  expiresAt : Time
  consumedAt : Option Time := none
  deriving DecidableEq, Repr

structure Nonce where
  hash : String
  expiresAt : Time
  consumedAt : Option Time := none
  deriving DecidableEq, Repr

inductive StateError where
  | invalidGrant
  | invalidToken
  | invalidNonce
  /-- An error of the driver. -/
  | other
  deriving DecidableEq, Repr

structure StateTables where
  grants : Assoc String Grant := ∅
  access : Assoc String Access := ∅
  nonces : Assoc String Nonce := ∅

/-- What an operation returns, and the records after it. -/
abbrev Done (α : Type) := Except StateError α × StateTables

structure StateStore where
  putGrant : Grant → StateTables → Done Unit
  exchangeGrant : (codeHash expectedTenant tokenHash : String) → (tokenExpiry now : Time) →
    StateTables → Done Access
  accessByHash : (tokenHash : String) → (now : Time) → StateTables → Except StateError Access
  consumeAccess : (tokenHash : String) → (now : Time) → StateTables → Done Unit
  prepareAccess : (tokenHash : String) → (statusIndex : ℤ) → (issuedAt now : Time) →
    StateTables → Done Access
  putNonce : Nonce → StateTables → Done Unit
  consumeNonce : (hash : String) → (now : Time) → StateTables → Done Unit

namespace StateTables

def setGrant (g : Grant) (s : StateTables) : StateTables :=
  { s with grants := s.grants.insert g.codeHash g }

def setNonce (n : Nonce) (s : StateTables) : StateTables :=
  { s with nonces := s.nonces.insert n.hash n }

end StateTables

/-! ### The store in memory -/

namespace MemoryStateStore

def putGrant (grant : Grant) (s : StateTables) : Done Unit :=
  if grant.codeHash ∈ s.grants then (.error .invalidGrant, s) else (.ok (), s.setGrant grant)

def exchangeGrant (codeHash expectedTenant tokenHash : String) (tokenExpiry now : Time)
    (s : StateTables) : Done Access :=
  match s.grants.lookup codeHash with
  | none => (.error .invalidGrant, s)
  | some grant =>
    if grant.tenantID ≠ expectedTenant ∨ grant.consumedAt.isSome ∨ ¬ now < grant.expiresAt then
      (.error .invalidGrant, s)
    else
      -- The forum host of the grant is not copied, so that it is empty.
      let access : Access :=
        { tokenHash, tenantID := grant.tenantID
          credentialConfigurationID := grant.credentialConfigurationID
          subjectPairwiseHash := grant.subjectPairwiseHash
          subjectPairwiseDID := grant.subjectPairwiseDID
          membershipClass := grant.membershipClass, forumHostID := "", boardID := grant.boardID
          expiresAt := tokenExpiry }
      (.ok access,
        { s with
          grants := s.grants.insert codeHash { grant with consumedAt := some now }
          access := s.access.insert tokenHash access })

/-- The record of a token that has not expired. -/
def live (tokenHash : String) (now : Time) (s : StateTables) : Option Access :=
  (s.access.lookup tokenHash).filter fun access => now < access.expiresAt

def accessByHash (tokenHash : String) (now : Time) (s : StateTables) : Except StateError Access :=
  match live tokenHash now s with
  | some access => .ok access
  | none => .error .invalidToken

def prepareAccess (tokenHash : String) (statusIndex : ℤ) (issuedAt now : Time)
    (s : StateTables) : Done Access :=
  match live tokenHash now s with
  | none => (.error .invalidToken, s)
  | some access =>
    if access.statusIndex = none then
      let access := { access with statusIndex := some statusIndex, issuedAt := some issuedAt }
      (.ok access, { s with access := s.access.insert tokenHash access })
    else (.ok access, s)

def consumeAccess (tokenHash : String) (now : Time) (s : StateTables) : Done Unit :=
  match live tokenHash now s with
  | none => (.error .invalidToken, s)
  | some access =>
    (.ok (), { s with
      access := s.access.insert tokenHash { access with consumedAt := access.consumedAt.or now } })

/-- A nonce is written over one with its hash. -/
def putNonce (nonce : Nonce) (s : StateTables) : Done Unit := (.ok (), s.setNonce nonce)

def consumeNonce (hash : String) (now : Time) (s : StateTables) : Done Unit :=
  match s.nonces.lookup hash with
  | none => (.error .invalidNonce, s)
  | some nonce =>
    if nonce.consumedAt.isSome ∨ ¬ now < nonce.expiresAt then (.error .invalidNonce, s)
    else (.ok (), { s with
      nonces := s.nonces.insert hash { nonce with consumedAt := some now } })

end MemoryStateStore

def memoryStateStore : StateStore where
  putGrant := MemoryStateStore.putGrant
  exchangeGrant := MemoryStateStore.exchangeGrant
  accessByHash := MemoryStateStore.accessByHash
  consumeAccess := MemoryStateStore.consumeAccess
  prepareAccess := MemoryStateStore.prepareAccess
  putNonce := MemoryStateStore.putNonce
  consumeNonce := MemoryStateStore.consumeNonce

/-! ### The store over PostgreSQL -/

namespace PostgresStateStore

open PostgresStore (areTexts timestamps)

/-- `INSERT INTO oid4vci_grants`; the tenants are those of `issuer_tenants`. -/
def putGrant (tenants : List String) (g : Grant) (s : StateTables) : Done Unit :=
  match timestamptz g.expiresAt with
  | none => (.error .other, s)
  | some expiresAt =>
    if ¬ areTexts [g.codeHash, g.tenantID, g.credentialConfigurationID, g.subjectPairwiseHash,
        g.subjectPairwiseDID, g.membershipClass, g.forumHostID, g.boardID] then (.error .other, s)
    else if g.codeHash ∈ s.grants then (.error .invalidGrant, s)
    else if g.tenantID ∉ tenants then (.error .other, s)
    else (.ok (), s.setGrant { g with expiresAt, consumedAt := none })

/-- `SELECT … FROM oid4vci_grants … FOR UPDATE` -/
def openGrant (codeHash expectedTenant : String) (now : Time) (s : StateTables) : Option Grant :=
  (s.grants.lookup codeHash).filter fun g =>
    g.tenantID = expectedTenant ∧ g.consumedAt = none ∧ now < g.expiresAt

def exchangeGrant (codeHash expectedTenant tokenHash : String) (tokenExpiry now : Time)
    (s : StateTables) : Done Access :=
  match timestamps now tokenExpiry with
  | none => (.error .other, s)
  | some (stamp, expiresAt) =>
    if ¬ areTexts [codeHash, expectedTenant, tokenHash] then (.error .other, s)
    else match openGrant codeHash expectedTenant stamp s with
      | none => (.error .invalidGrant, s)
      | some grant =>
        let access : Access :=
          { tokenHash, tenantID := grant.tenantID
            credentialConfigurationID := grant.credentialConfigurationID
            subjectPairwiseHash := grant.subjectPairwiseHash
            subjectPairwiseDID := grant.subjectPairwiseDID
            membershipClass := grant.membershipClass, forumHostID := grant.forumHostID
            boardID := grant.boardID, expiresAt := tokenExpiry }
        if tokenHash ∈ s.access then (.error .other, s)
        else (.ok access,
          { s with
            grants := s.grants.insert codeHash { grant with consumedAt := some stamp }
            access := s.access.insert tokenHash { access with expiresAt } })

/-- The row of a token that has not expired. -/
def live (tokenHash : String) (stamp : Time) (s : StateTables) : Option Access :=
  (s.access.lookup tokenHash).filter fun access => stamp < access.expiresAt

def accessByHash (tokenHash : String) (now : Time) (s : StateTables) : Except StateError Access :=
  match timestamptz now with
  | none => .error .other
  | some stamp =>
    if ¬ areTexts [tokenHash] then .error .other
    else match live tokenHash stamp s with
      | some access => .ok access
      | none => .error .invalidToken

def prepareAccess (tokenHash : String) (statusIndex : ℤ) (issuedAt now : Time)
    (s : StateTables) : Done Access :=
  match timestamps issuedAt now with
  | none => (.error .other, s)
  | some (issuedAt, stamp) =>
    if ¬ areTexts [tokenHash] then (.error .other, s)
    else match live tokenHash stamp s with
      | none => (.error .invalidToken, s)
      | some access =>
        let access :=
          { access with
            statusIndex := access.statusIndex.or statusIndex
            issuedAt := access.issuedAt.or issuedAt }
        (.ok access, { s with access := s.access.insert tokenHash access })

def consumeAccess (tokenHash : String) (now : Time) (s : StateTables) : Done Unit :=
  match timestamptz now with
  | none => (.error .other, s)
  | some stamp =>
    if ¬ areTexts [tokenHash] then (.error .other, s)
    else match live tokenHash stamp s with
      | none => (.error .invalidToken, s)
      | some access =>
        (.ok (), { s with
          access := s.access.insert tokenHash
            { access with consumedAt := access.consumedAt.or stamp } })

def putNonce (n : Nonce) (s : StateTables) : Done Unit :=
  match timestamptz n.expiresAt with
  | none => (.error .other, s)
  | some expiresAt =>
    if ¬ areTexts [n.hash] then (.error .other, s)
    else if n.hash ∈ s.nonces then (.error .invalidNonce, s)
    else (.ok (), s.setNonce { n with expiresAt, consumedAt := none })

def consumeNonce (hash : String) (now : Time) (s : StateTables) : Done Unit :=
  match timestamptz now with
  | none => (.error .other, s)
  | some stamp =>
    if ¬ areTexts [hash] then (.error .other, s)
    else match (s.nonces.lookup hash).filter fun n => n.consumedAt = none ∧ stamp < n.expiresAt with
      | none => (.error .invalidNonce, s)
      | some nonce =>
        (.ok (), { s with nonces := s.nonces.insert hash { nonce with consumedAt := some stamp } })

end PostgresStateStore

/-- The store over PostgreSQL, with the tenants of `issuer_tenants`. -/
def postgresStateStore (tenants : List String) : StateStore where
  putGrant := PostgresStateStore.putGrant tenants
  exchangeGrant := PostgresStateStore.exchangeGrant
  accessByHash := PostgresStateStore.accessByHash
  consumeAccess := PostgresStateStore.consumeAccess
  prepareAccess := PostgresStateStore.prepareAccess
  putNonce := PostgresStateStore.putNonce
  consumeNonce := PostgresStateStore.consumeNonce

/-! ### Laws -/

/-- What every token takes over from its grant. -/
structure Copies (g : Grant) (a : Access) : Prop where
  tenantID : a.tenantID = g.tenantID
  credentialConfigurationID : a.credentialConfigurationID = g.credentialConfigurationID
  subjectPairwiseHash : a.subjectPairwiseHash = g.subjectPairwiseHash
  subjectPairwiseDID : a.subjectPairwiseDID = g.subjectPairwiseDID
  membershipClass : a.membershipClass = g.membershipClass
  boardID : a.boardID = g.boardID

/-- What a token has of its grant, and of the expiry that it is given: the forum host where the
store keeps it, and the expiry as the store keeps it. -/
structure Binds (keepsForum : Bool) (stored : Time → Time) (g : Grant) (expiry : Time)
    (a : Access) : Prop where
  copies : Copies g a
  forumHostID : keepsForum = true → a.forumHostID = g.forumHostID
  expiresAt : a.expiresAt = stored expiry

/-- What a token is prepared with stays: its index and its instant are set together, and once. -/
structure Prepares (issuedAt : Time) (row row' : Access) : Prop where
  copied : row' = { row with statusIndex := row'.statusIndex, issuedAt := row'.issuedAt }
  prepared : row.statusIndex.isSome = row.issuedAt.isSome →
    row'.statusIndex.isSome ∧ row'.issuedAt.isSome
  kept : row.statusIndex.isSome = row.issuedAt.isSome → row.statusIndex.isSome → row' = row
  stamped : ∀ x ∈ row'.issuedAt, row.issuedAt = some x ∨ x = issuedAt ∨ x = issuedAt / 1000 * 1000

/-- **What the operations of a store do to the records.** -/
structure StateLaws (S : StateStore) (keepsForum : Bool) (stored : Time → Time) : Prop where
  putGrant : ∀ g s r t, S.putGrant g s = (r, t) →
    t = s ∨ s.grants.lookup g.codeHash = none ∧
      ∃ g', t = { s with grants := s.grants.insert g.codeHash g' }
  exchangeGrant : ∀ code tenant token expiry now s r t,
    S.exchangeGrant code tenant token expiry now s = (r, t) → (∃ e, r = .error e ∧ t = s) ∨
      ∃ g a stamp, s.grants.lookup code = some g ∧ g.tenantID = tenant ∧ g.consumedAt = none ∧
        Binds keepsForum stored g expiry a ∧ a.statusIndex = none ∧ a.issuedAt = none ∧
        (∃ access, r = .ok access) ∧ t = { s with
          grants := s.grants.insert code { g with consumedAt := some stamp }
          access := s.access.insert token a }
  accessByHash : ∀ token now s a, S.accessByHash token now s = .ok a →
    s.access.lookup token = some a
  prepareAccess : ∀ token index issuedAt now s r t,
    S.prepareAccess token index issuedAt now s = (r, t) → (∃ e, r = .error e ∧ t = s) ∨
      ∃ row row', r = .ok row' ∧ s.access.lookup token = some row ∧ Prepares issuedAt row row' ∧
        t.grants = s.grants ∧ t.nonces = s.nonces ∧
        ∀ k, t.access.lookup k = if k = token then some row' else s.access.lookup k
  consumeAccess : ∀ token now s r t, S.consumeAccess token now s = (r, t) → t = s ∨
    ∃ row consumedAt, s.access.lookup token = some row ∧
      t = { s with access := s.access.insert token { row with consumedAt } }
  putNonce : ∀ n s r t, S.putNonce n s = (r, t) →
    t = s ∨ ∃ n', t = { s with nonces := s.nonces.insert n.hash n' }
  consumeNonce : ∀ hash now s r t, S.consumeNonce hash now s = (r, t) →
    (∃ e, r = .error e ∧ t = s) ∨
      ∃ n stamp, s.nonces.lookup hash = some n ∧ n.consumedAt = none ∧
        (∃ done, r = .ok done) ∧
          t = { s with nonces := s.nonces.insert hash { n with consumedAt := some stamp } }

theorem timestamps_eq_some {t u t' u' : Time}
    (h : PostgresStore.timestamps t u = some (t', u')) :
    t' = t / 1000 * 1000 ∧ u' = u / 1000 * 1000 := by
  unfold PostgresStore.timestamps at h
  split at h
  · rename_i ht hu
    cases h
    exact ⟨timestamptz_eq_some ht, timestamptz_eq_some hu⟩
  · cases h

/-- In memory the forum host is lost, and times are kept as they are. -/
theorem laws_memoryStateStore : StateLaws memoryStateStore false id where
  putGrant := by
    intro g s r t h
    change MemoryStateStore.putGrant g s = (r, t) at h
    unfold MemoryStateStore.putGrant at h
    split at h
    · exact .inl (congrArg Prod.snd h).symm
    · rename_i hnew
      exact .inr ⟨AList.lookup_eq_none.2 hnew, g, (congrArg Prod.snd h).symm⟩
  exchangeGrant := by
    intro code tenant token expiry now s r t h
    change MemoryStateStore.exchangeGrant code tenant token expiry now s = (r, t) at h
    unfold MemoryStateStore.exchangeGrant at h
    split at h
    · exact .inl ⟨_, (congrArg Prod.fst h).symm, (congrArg Prod.snd h).symm⟩
    rename_i g hg
    split at h
    · exact .inl ⟨_, (congrArg Prod.fst h).symm, (congrArg Prod.snd h).symm⟩
    rename_i hopen
    simp only [not_or, not_not, Bool.not_eq_true, Option.isSome_eq_false_iff,
      Option.isNone_iff_eq_none] at hopen
    exact .inr ⟨g, _, now, hg, hopen.1, hopen.2.1,
      ⟨⟨rfl, rfl, rfl, rfl, rfl, rfl⟩, nofun, rfl⟩, rfl, rfl,
      ⟨_, (congrArg Prod.fst h).symm⟩, (congrArg Prod.snd h).symm⟩
  accessByHash := by
    intro token now s a h
    change MemoryStateStore.accessByHash token now s = .ok a at h
    unfold MemoryStateStore.accessByHash MemoryStateStore.live at h
    split at h
    · rename_i hlive
      cases h
      exact (Option.filter_eq_some_iff.1 hlive).1
    · cases h
  prepareAccess := by
    intro token index issuedAt now s r t h
    change MemoryStateStore.prepareAccess token index issuedAt now s = (r, t) at h
    unfold MemoryStateStore.prepareAccess at h
    split at h
    · exact .inl ⟨_, (congrArg Prod.fst h).symm, (congrArg Prod.snd h).symm⟩
    rename_i row hlive
    have hrow := (Option.filter_eq_some_iff.1 hlive).1
    split at h
    · rename_i hnone
      cases h
      refine .inr ⟨row, _, rfl, hrow, ⟨rfl, fun _ => ⟨rfl, rfl⟩, ?_, ?_⟩, rfl, rfl, ?_⟩
      · intro _ hsome
        rw [hnone] at hsome
        cases hsome
      · intro x hx
        exact .inr (.inl (Option.some.inj hx).symm)
      · intro k
        exact Assoc.lookup_insert' _ _ _ _
    · rename_i hsome
      cases h
      refine .inr ⟨row, row, rfl, hrow, ⟨rfl, ?_, fun _ _ => rfl, fun x hx => .inl hx⟩, rfl, rfl,
        ?_⟩
      · intro hboth
        have := Option.isSome_iff_ne_none.2 hsome
        exact ⟨this, hboth ▸ this⟩
      · intro k
        split
        · rename_i hk
          rw [hk]
          exact hrow
        · rfl
  consumeAccess := by
    intro token now s r t h
    change MemoryStateStore.consumeAccess token now s = (r, t) at h
    unfold MemoryStateStore.consumeAccess at h
    split at h
    · exact .inl (congrArg Prod.snd h).symm
    rename_i row hlive
    exact .inr ⟨row, _, (Option.filter_eq_some_iff.1 hlive).1, (congrArg Prod.snd h).symm⟩
  putNonce := by
    intro n s r t h
    exact .inr ⟨n, (congrArg Prod.snd h).symm⟩
  consumeNonce := by
    intro hash now s r t h
    change MemoryStateStore.consumeNonce hash now s = (r, t) at h
    unfold MemoryStateStore.consumeNonce at h
    split at h
    · exact .inl ⟨_, (congrArg Prod.fst h).symm, (congrArg Prod.snd h).symm⟩
    rename_i n hn
    split at h
    · exact .inl ⟨_, (congrArg Prod.fst h).symm, (congrArg Prod.snd h).symm⟩
    rename_i hopen
    simp only [not_or, not_not, Bool.not_eq_true, Option.isSome_eq_false_iff,
      Option.isNone_iff_eq_none] at hopen
    exact .inr ⟨n, now, hn, hopen.1, ⟨_, (congrArg Prod.fst h).symm⟩, (congrArg Prod.snd h).symm⟩

/-- Over PostgreSQL the forum host is kept, and times are in microseconds. -/
theorem laws_postgresStateStore (tenants : List String) :
    StateLaws (postgresStateStore tenants) true (· / 1000 * 1000) where
  putGrant := by
    intro g s r t h
    change PostgresStateStore.putGrant tenants g s = (r, t) at h
    unfold PostgresStateStore.putGrant at h
    iterate 3
      split at h
      · exact .inl (congrArg Prod.snd h).symm
    rename_i hnew
    split at h
    · exact .inl (congrArg Prod.snd h).symm
    exact .inr ⟨AList.lookup_eq_none.2 hnew, _, (congrArg Prod.snd h).symm⟩
  exchangeGrant := by
    intro code tenant token expiry now s r t h
    change PostgresStateStore.exchangeGrant code tenant token expiry now s = (r, t) at h
    unfold PostgresStateStore.exchangeGrant at h
    split at h
    · exact .inl ⟨_, (congrArg Prod.fst h).symm, (congrArg Prod.snd h).symm⟩
    -- times that no column holds are refused; then the row is locked and checked
    rename_i stamp expiresAt hstamps
    iterate 2
      split at h
      · exact .inl ⟨_, (congrArg Prod.fst h).symm, (congrArg Prod.snd h).symm⟩
    rename_i g hopen
    dsimp only at h
    split at h
    · exact .inl ⟨_, (congrArg Prod.fst h).symm, (congrArg Prod.snd h).symm⟩
    obtain ⟨hg, hopen⟩ := Option.filter_eq_some_iff.1 hopen
    obtain ⟨htenant, hconsumed, -⟩ := of_decide_eq_true hopen
    exact .inr ⟨g, _, stamp, hg, htenant, hconsumed,
      ⟨⟨rfl, rfl, rfl, rfl, rfl, rfl⟩, fun _ => rfl, (timestamps_eq_some hstamps).2⟩, rfl, rfl,
      ⟨_, (congrArg Prod.fst h).symm⟩, (congrArg Prod.snd h).symm⟩
  accessByHash := by
    intro token now s a h
    change PostgresStateStore.accessByHash token now s = .ok a at h
    unfold PostgresStateStore.accessByHash at h
    split at h
    · cases h
    split at h
    · cases h
    split at h
    · rename_i hlive
      cases h
      exact (Option.filter_eq_some_iff.1 hlive).1
    · cases h
  prepareAccess := by
    intro token index issuedAt now s r t h
    change PostgresStateStore.prepareAccess token index issuedAt now s = (r, t) at h
    unfold PostgresStateStore.prepareAccess at h
    split at h
    · exact .inl ⟨_, (congrArg Prod.fst h).symm, (congrArg Prod.snd h).symm⟩
    rename_i stamped stamp hstamps
    iterate 2
      split at h
      · exact .inl ⟨_, (congrArg Prod.fst h).symm, (congrArg Prod.snd h).symm⟩
    rename_i row hlive
    cases h
    -- `COALESCE` keeps an index and a time that are there
    refine .inr ⟨row, _, rfl, (Option.filter_eq_some_iff.1 hlive).1,
      ⟨rfl, ?_, ?_, ?_⟩, rfl, rfl, ?_⟩
    · intro _
      exact ⟨by cases row.statusIndex <;> rfl, by cases row.issuedAt <;> rfl⟩
    · intro hboth hsome
      obtain ⟨i, hi⟩ := Option.isSome_iff_exists.1 hsome
      obtain ⟨at', hat⟩ := Option.isSome_iff_exists.1 (hboth ▸ hsome)
      rw [hi, hat, Option.some_or, Option.some_or, ← hi, ← hat]
    · intro x hx
      rcases Option.or_eq_some_iff.1 hx with hx | ⟨-, hx⟩
      · exact .inl hx
      · exact .inr (.inr ((Option.some.inj hx).symm.trans ((timestamps_eq_some hstamps).1)))
    · intro k
      exact Assoc.lookup_insert' _ _ _ _
  consumeAccess := by
    intro token now s r t h
    change PostgresStateStore.consumeAccess token now s = (r, t) at h
    unfold PostgresStateStore.consumeAccess at h
    iterate 3
      split at h
      · exact .inl (congrArg Prod.snd h).symm
    rename_i row hlive
    exact .inr ⟨row, _, (Option.filter_eq_some_iff.1 hlive).1, (congrArg Prod.snd h).symm⟩
  putNonce := by
    intro n s r t h
    change PostgresStateStore.putNonce n s = (r, t) at h
    unfold PostgresStateStore.putNonce at h
    iterate 3
      split at h
      · exact .inl (congrArg Prod.snd h).symm
    exact .inr ⟨_, (congrArg Prod.snd h).symm⟩
  consumeNonce := by
    intro hash now s r t h
    change PostgresStateStore.consumeNonce hash now s = (r, t) at h
    unfold PostgresStateStore.consumeNonce at h
    split at h
    · exact .inl ⟨_, (congrArg Prod.fst h).symm, (congrArg Prod.snd h).symm⟩
    rename_i stamp hstamp
    iterate 2
      split at h
      · exact .inl ⟨_, (congrArg Prod.fst h).symm, (congrArg Prod.snd h).symm⟩
    rename_i n hopen
    obtain ⟨hn, hopen⟩ := Option.filter_eq_some_iff.1 hopen
    exact .inr ⟨n, stamp, hn, (of_decide_eq_true hopen).1, ⟨_, (congrArg Prod.fst h).symm⟩,
      (congrArg Prod.snd h).symm⟩

end Ansible.Oid4vci
