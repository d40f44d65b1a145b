import Ansible.Lib.SecondaryIndex
import Mathlib.Data.List.Pairwise
import Mathlib.Tactic.Common

/-!
# The issuer's credential store

The Go issuer keeps one record per credential.  The records are cells reached
through pointers: `byID` has one for every credential, and three indexes lead
from the irreversible commitments of a person (a legacy commitment, a
national-id hash, a passport-number hash) to the active record with them.
Records are dropped from the indexes when they are revoked, so that the person
may enrol again, and every write is followed by a save of the whole store to its
file, when it has one; a save that fails is rolled back.

## Main definitions

* `Record`, `Store` — the records, and the store with its heap and its indexes.
* `Store.checkDuplicate`, `Store.checkDuplicatePersonhoodBinding` — the lookups.
* `Store.add`, `Store.revoke`, `newFileStore` — the writes, and the reload of a file.
* `Record.Clash` — two records that an index or `byID` cannot tell apart.

## Main results

* `Consistent.add`, `Consistent.revoke`, `Consistent.newFileStore` — **the indexes
  stay in step with every write**, provided that no live record clashes with an
  added one.
-/

namespace Ansible.Vc

/-- The lifecycle state of an issued credential. -/
inductive CredentialStatus where
  | active
  | revoked
  deriving DecidableEq, Repr

/-- What the store and the issuer refuse with. -/
inductive VcError where
  | duplicateActiveCredential
  | duplicatePersonhoodBinding
  | credentialNotFound
  | missingPersonhoodCommitment
  /-- The file of the store could not be written. -/
  | persist
  /-- The proof of the credential could not be created. -/
  | sign
  deriving DecidableEq, Repr

/-- The issuer's internal entry for a credential. -/
structure Record where
  credentialID : String
  holderDID : String
  /-- HMAC of the provider subject. -/
  commitment : String
  nationalIDHash : String
  passportNumberHash : String
  status : CredentialStatus
  deriving DecidableEq, Repr

/-- The binding between the commitments of a person and the credential issued from them. -/
structure PersonhoodBinding where
  nationalIDHash : String
  passportNumberHash : String
  credentialID : String
  holderDID : String
  status : CredentialStatus
  deriving DecidableEq, Repr

namespace Record

def binding (r : Record) : PersonhoodBinding :=
  ⟨r.nationalIDHash, r.passportNumberHash, r.credentialID, r.holderDID, r.status⟩

/-- The key of an index that a record with the hash `h` is found under: only active
records are indexed, and only under a hash. -/
def key (r : Record) (h : String) : Option String :=
  if r.status = .active ∧ h ≠ "" then some h else none

/-- The key in the index by commitment. -/
def commKey (r : Record) : Option String := r.key r.commitment

/-- The key in the index by national-id hash. -/
def nationalIDKey (r : Record) : Option String := r.key r.nationalIDHash

def passportNumberKey (r : Record) : Option String := r.key r.passportNumberHash

theorem key_eq_some {r : Record} {h k : String} :
    r.key h = some k ↔ r.status = .active ∧ h ≠ "" ∧ h = k := by
  unfold key
  split
  · rename_i hr
    simp [hr.1, hr.2]
  · rename_i hr
    constructor
    · intro hn
      cases hn
    · rintro ⟨hs, hne, -⟩
      exact absurd ⟨hs, hne⟩ hr

/-- Some index has one key for both records. -/
def SharesKey (r r' : Record) : Prop :=
  ∃ h, (r.commKey = some h ∧ r'.commKey = some h) ∨
    (r.nationalIDKey = some h ∧ r'.nationalIDKey = some h) ∨
    (r.passportNumberKey = some h ∧ r'.passportNumberKey = some h)

instance (r r' : Record) : Decidable (r.SharesKey r') :=
  have hiff : ∀ {a b : Option String}, (∃ h, a = some h ∧ b = some h) ↔ a.isSome ∧ a = b := by
    intro a b
    cases a <;> simp [eq_comm]
  decidable_of_iff ((r.commKey.isSome ∧ r.commKey = r'.commKey) ∨
      (r.nationalIDKey.isSome ∧ r.nationalIDKey = r'.nationalIDKey) ∨
      (r.passportNumberKey.isSome ∧ r.passportNumberKey = r'.passportNumberKey)) (by
    simp only [← hiff, SharesKey, exists_or])

/-- The records have one credential id, or some index has one key for both. -/
def Clash (r r' : Record) : Prop := r.credentialID = r'.credentialID ∨ r.SharesKey r'

/-- The record with its credential revoked. -/
def retired (r : Record) : Record := { r with status := .revoked }

variable (r : Record)

@[simp] theorem retired_credentialID : r.retired.credentialID = r.credentialID := rfl

@[simp] theorem key_retired (h : String) : r.retired.key h = none := rfl

@[simp] theorem commKey_retired : r.retired.commKey = none := rfl

@[simp] theorem nationalIDKey_retired : r.retired.nationalIDKey = none := rfl

@[simp] theorem passportNumberKey_retired : r.retired.passportNumberKey = none := rfl

end Record

/-- The address of a cell of the heap. -/
abbrev Addr := ℕ

/-- The credential store.  The maps hold pointers into the heap; `file` is what was
last saved, for a store that has a file. -/
structure Store where
  heap : List Record := []
  byID : String → Option Addr := fun _ => none
  byComm : String → Option Addr := fun _ => none
  byNationalIDHash : String → Option Addr := fun _ => none
  byPassportNumberHash : String → Option Addr := fun _ => none
  file : Option (List Record) := none

/-- A hash as the key it is looked up and dropped under: none when it is empty. -/
def hashKey (h : String) : Option String := if h = "" then none else some h

namespace Store

/-- The cell is the one `byID` has for the record it holds. -/
def Live (s : Store) (p : Addr) (r : Record) : Prop :=
  s.heap[p]? = some r ∧ s.byID r.credentialID = some p

instance (s : Store) (p : Addr) (r : Record) : Decidable (s.Live p r) :=
  inferInstanceAs (Decidable (_ ∧ _))

/-- The record is one of the store's. -/
def Has (s : Store) (r : Record) : Prop := ∃ p, s.Live p r

/-- Whether a lookup found the record of an active credential. -/
def activeAt (s : Store) (found : Option Addr) : Bool :=
  match found.bind (s.heap[·]?) with
  | some r => r.status == .active
  | none => false

/-! ### Lookups -/

/-- Whether an active credential already exists for the commitment. -/
def checkDuplicate (s : Store) (comm : String) : Except VcError Unit :=
  let found := (s.byNationalIDHash comm).or (s.byComm comm)
  if s.activeAt found then .error .duplicateActiveCredential else .ok ()

/-- Whether an active credential exists under any of the commitments that are not empty. -/
def checkDuplicateAny (s : Store) : List String → Except VcError Unit
  | [] => .ok ()
  | c :: commitments =>
    if c = "" then s.checkDuplicateAny commitments
    else
      match s.checkDuplicate c with
      | .error e => .error e
      | .ok () => s.checkDuplicateAny commitments

/-- Whether an active credential already exists for either personhood hash. -/
def checkDuplicatePersonhoodBinding (s : Store) (nationalIDHash passportNumberHash : String) :
    Except VcError Unit :=
  let found := if nationalIDHash ≠ "" then s.byNationalIDHash nationalIDHash else none
  let found := if ¬ s.activeAt found ∧ passportNumberHash ≠ "" then
    s.byPassportNumberHash passportNumberHash else found
  if s.activeAt found then .error .duplicatePersonhoodBinding else .ok ()

/-- The binding of a national-id hash, when there is one. -/
def personhoodBindingByNationalIDHash (s : Store) (nationalIDHash : String) :
    Option PersonhoodBinding :=
  ((s.byNationalIDHash nationalIDHash).bind (s.heap[·]?)).map Record.binding

/-- The lifecycle state of a credential. -/
def status (s : Store) (credentialID : String) : Option CredentialStatus :=
  ((s.byID credentialID).bind (s.heap[·]?)).map Record.status

/-! ### Writes -/

/-- Allocate a cell for the record and point the maps at it. -/
def indexLocked (s : Store) (r : Record) : Store :=
  let p := s.heap.length
  { s with
    heap := s.heap ++ [r]
    byID := Function.update s.byID r.credentialID (some p)
    byComm := enter s.byComm r.commKey p
    byNationalIDHash := enter s.byNationalIDHash r.nationalIDKey p
    byPassportNumberHash := enter s.byPassportNumberHash r.passportNumberKey p }

/-- Drop the entries of the active-duplicate indexes that point at the record. -/
def unindex (s : Store) (p : Addr) (r : Record) : Store :=
  { s with
    byComm := drop s.byComm (hashKey r.commitment) p
    byNationalIDHash := drop s.byNationalIDHash (hashKey r.nationalIDHash) p
    byPassportNumberHash := drop s.byPassportNumberHash (hashKey r.passportNumberHash) p }

/-- The record that `byID` leads to, with its cell. -/
def lookup (s : Store) (credentialID : String) : Option (Addr × Record) :=
  (s.byID credentialID).bind fun p => (s.heap[p]?).map fun r => (p, r)

/-- Forget a credential. -/
def removeLocked (s : Store) (credentialID : String) : Store :=
  match s.lookup credentialID with
  | none => s
  | some (p, r) => { s.unindex p r with byID := Function.update s.byID credentialID none }

def records (s : Store) : List Record :=
  (List.range s.heap.length).filterMap fun p =>
    (s.heap[p]?).filter fun r => s.byID r.credentialID == some p

/-- Save the records, when the store has a file; `writes` says whether it can be written. -/
def saveLocked (s : Store) (writes : Bool) : Option Store :=
  match s.file with
  | none => some s
  | some _ => if writes then some { s with file := some s.records } else none

/-- Record a credential. -/
def add (s : Store) (r : Record) (writes : Bool) : Except VcError Unit × Store :=
  match (s.indexLocked r).saveLocked writes with
  | some s' => (.ok (), s')
  | none => (.error .persist, (s.indexLocked r).removeLocked r.credentialID)

/-- Drop the record of the cell `p` from the indexes and mark it as revoked. -/
def retire (s : Store) (p : Addr) (r : Record) : Store :=
  { s.unindex p r with heap := s.heap.set p r.retired }

/-- Put a record back into its cell. -/
def restore (s : Store) (p : Addr) (r : Record) : Store := { s with heap := s.heap.set p r }

/-- Mark a credential as revoked and drop it from the active-duplicate indexes, so that
the person may enrol again. -/
def revoke (s : Store) (credentialID : String) (writes : Bool) : Except VcError Unit × Store :=
  match s.lookup credentialID with
  | none => (.error .credentialNotFound, s)
  | some (p, r) =>
    if r.status = .revoked then (.ok (), s)
    else
      match (s.retire p r).saveLocked writes with
      | some s' => (.ok (), s')
      | none =>
        -- the status is put back, and a copy of the record is indexed
        (.error .persist, ((s.retire p r).restore p r).indexLocked r)

end Store

/-- A store without a file. -/
def newStore : Store := {}

/-- The store with the records of a file. -/
def load (records : List Record) : Option Store :=
  if records.any fun r => r.credentialID == "" then none
  else some (records.foldl Store.indexLocked { file := some records })

/-- A store with a file: empty, when the file does not exist. -/
def newFileStore : Option (List Record) → Option Store
  | none => some { file := some [] }
  | some records => load records

/-! ### What the indexes promise -/

namespace Store

/-- **One active credential per person.**  At most one live record that is not revoked
exists per national-id hash, and every index maps a hash to the active record with it. -/
structure OnePerPerson (s : Store) : Prop where
  unique : ∀ r r', s.Has r → s.Has r' → r.status ≠ .revoked → r'.status ≠ .revoked →
    r.nationalIDHash ≠ "" → r.nationalIDHash = r'.nationalIDHash → r = r'
  byComm : Indexes s.Live Record.commKey s.byComm
  byNationalIDHash : Indexes s.Live Record.nationalIDKey s.byNationalIDHash
  byPassportNumberHash : Indexes s.Live Record.passportNumberKey s.byPassportNumberHash

/-- Every pointer of the store leads to the record it is kept for. -/
structure Consistent (s : Store) : Prop where
  byID : ∀ id p, s.byID id = some p → ∃ r, s.heap[p]? = some r ∧ r.credentialID = id
  byComm : Indexes s.Live Record.commKey s.byComm
  byNationalIDHash : Indexes s.Live Record.nationalIDKey s.byNationalIDHash
  byPassportNumberHash : Indexes s.Live Record.passportNumberKey s.byPassportNumberHash

variable {s : Store} {p q : Addr} {r r' : Record}

theorem Consistent.onePerPerson (h : s.Consistent) : s.OnePerPerson where
  unique := by
    rintro r r' ⟨p, hr⟩ ⟨q, hr'⟩ hact hact' hne heq
    have hk : r.nationalIDKey = some r.nationalIDHash := by
      refine Record.key_eq_some.2 ⟨?_, hne, rfl⟩
      cases hs : r.status with
      | active => rfl
      | revoked => exact absurd hs hact
    have hk' : r'.nationalIDKey = some r.nationalIDHash := by
      refine Record.key_eq_some.2 ⟨?_, heq ▸ hne, heq.symm⟩
      cases hs : r'.status with
      | active => rfl
      | revoked => exact absurd hs hact'
    have hpq := h.byNationalIDHash.unique hr hr' hk hk'
    subst hpq
    have hcell := hr'.1
    rw [hr.1] at hcell
    exact Option.some.inj hcell
  byComm := h.byComm
  byNationalIDHash := h.byNationalIDHash
  byPassportNumberHash := h.byPassportNumberHash

theorem Live.eq (h : s.Live p r) (h' : s.Live p r') : r' = r := by
  have hcell := h'.1
  rw [h.1] at hcell
  exact (Option.some.inj hcell).symm

theorem lt_of_live (h : s.Live p r) : p < s.heap.length :=
  (List.getElem?_eq_some_iff.1 h.1).1

theorem Live.addr_eq (h : s.Live p r) (h' : s.Live q r') (hid : r.credentialID = r'.credentialID) :
    p = q := by
  have hp := h.2
  rw [hid, h'.2] at hp
  exact (Option.some.inj hp).symm

theorem lookup_eq_some (hs : s.Consistent) {id : String} :
    s.lookup id = some (p, r) ↔ s.Live p r ∧ r.credentialID = id := by
  simp only [lookup, Option.bind_eq_some_iff, Option.map_eq_some_iff, Prod.mk.injEq]
  constructor
  · rintro ⟨q, hq, r', hr', rfl, rfl⟩
    obtain ⟨r'', hr'', hid⟩ := hs.byID id q hq
    rw [hr'] at hr''
    cases hr''
    subst hid
    exact ⟨⟨hr', hq⟩, rfl⟩
  · rintro ⟨⟨hr, hp⟩, rfl⟩
    exact ⟨p, hp, r, hr, rfl, rfl⟩

/-! ### Storing a record -/

theorem live_indexLocked (hnew : s.byID r.credentialID = none) :
    (s.indexLocked r).Live q r' ↔ s.Live q r' ∨ (q = s.heap.length ∧ r' = r) := by
  simp only [Live, indexLocked]
  rcases Nat.lt_trichotomy q s.heap.length with hq | rfl | hq
  · rw [List.getElem?_append_left hq]
    constructor
    · rintro ⟨hr', hid⟩
      refine .inl ⟨hr', ?_⟩
      by_cases hsame : r'.credentialID = r.credentialID
      · rw [hsame, Function.update_self] at hid
        exact absurd (Option.some.inj hid) (Nat.ne_of_gt hq)
      · rwa [Function.update_of_ne hsame] at hid
    · rintro (⟨hr', hid⟩ | ⟨rfl, -⟩)
      · refine ⟨hr', ?_⟩
        rwa [Function.update_of_ne]
        intro hsame
        rw [hsame, hnew] at hid
        cases hid
      · omega
  · rw [List.getElem?_append_right (Nat.le_refl _), Nat.sub_self, List.getElem?_cons_zero]
    constructor
    · rintro ⟨hr', -⟩
      exact .inr ⟨rfl, (Option.some.inj hr').symm⟩
    · rintro (⟨hr', -⟩ | ⟨-, rfl⟩)
      · rw [List.getElem?_eq_none (Nat.le_refl _)] at hr'
        cases hr'
      · exact ⟨rfl, Function.update_self ..⟩
  · have hlen : (s.heap ++ [r]).length ≤ q := by
      simp only [List.length_append, List.length_singleton]
      omega
    rw [List.getElem?_eq_none hlen]
    constructor
    · rintro ⟨hr', -⟩
      cases hr'
    · rintro (⟨hr', -⟩ | ⟨rfl, -⟩)
      · rw [List.getElem?_eq_none (Nat.le_of_lt hq)] at hr'
        cases hr'
      · omega

theorem has_indexLocked (hnew : s.byID r.credentialID = none) :
    (s.indexLocked r).Has r' ↔ s.Has r' ∨ r' = r := by
  constructor
  · rintro ⟨q, hq⟩
    rcases (live_indexLocked hnew).1 hq with hq | ⟨-, rfl⟩
    · exact .inl ⟨q, hq⟩
    · exact .inr rfl
  · rintro (⟨q, hq⟩ | rfl)
    · exact ⟨q, (live_indexLocked hnew).2 (.inl hq)⟩
    · exact ⟨s.heap.length, (live_indexLocked hnew).2 (.inr ⟨rfl, rfl⟩)⟩

/-- No live record clashes with the record. -/
def Admits (s : Store) (r : Record) : Prop := ∀ q r', s.Live q r' → ¬ r.Clash r'

theorem Consistent.byID_eq_none (hs : s.Consistent) (h : s.Admits r) :
    s.byID r.credentialID = none := by
  cases hp : s.byID r.credentialID with
  | none => rfl
  | some p =>
    obtain ⟨r', hr', hid⟩ := hs.byID _ _ hp
    exact absurd (.inl hid.symm) (h p r' ⟨hr', by rw [hid, hp]⟩)

theorem Consistent.indexLocked (hs : s.Consistent) (h : s.Admits r) :
    (s.indexLocked r).Consistent := by
  have hnew := hs.byID_eq_none h
  refine ⟨?_, ?_, ?_, ?_⟩
  · intro id p hp
    by_cases hid : id = r.credentialID
    · subst hid
      have hp' : some s.heap.length = some p := by
        simpa only [Store.indexLocked, Function.update_self] using hp
      cases hp'
      refine ⟨r, ?_, rfl⟩
      simp only [Store.indexLocked, List.getElem?_append_right (Nat.le_refl _), Nat.sub_self,
        List.getElem?_cons_zero]
    · simp only [Store.indexLocked, Function.update_of_ne hid] at hp
      obtain ⟨r', hr', hr'id⟩ := hs.byID id p hp
      have hlt := (List.getElem?_eq_some_iff.1 hr').1
      exact ⟨r', by rw [Store.indexLocked, List.getElem?_append_left hlt, hr'], hr'id⟩
  · exact hs.byComm.insert (fun _ _ => live_indexLocked hnew)
      fun h' hk q r' hr' hk' => h q r' hr' (.inr ⟨h', .inl ⟨hk, hk'⟩⟩)
  · exact hs.byNationalIDHash.insert (fun _ _ => live_indexLocked hnew)
      fun h' hk q r' hr' hk' => h q r' hr' (.inr ⟨h', .inr (.inl ⟨hk, hk'⟩)⟩)
  · exact hs.byPassportNumberHash.insert (fun _ _ => live_indexLocked hnew)
      fun h' hk q r' hr' hk' => h q r' hr' (.inr ⟨h', .inr (.inr ⟨hk, hk'⟩)⟩)

/-! ### Removing a record -/

theorem hashKey_of_key {h k : String} (hk : r.key h = some k) : hashKey h = some k := by
  obtain ⟨-, hne, rfl⟩ := Record.key_eq_some.1 hk
  exact if_neg hne

/-- What is left in the indexes once the entries of a record are dropped. -/
theorem Consistent.unindex (hs : s.Consistent) (hr : s.Live p r) {live' : Addr → Record → Prop}
    (hlive : ∀ q r', live' q r' ↔ s.Live q r' ∧ q ≠ p) :
    Indexes live' Record.commKey (s.unindex p r).byComm ∧
      Indexes live' Record.nationalIDKey (s.unindex p r).byNationalIDHash ∧
      Indexes live' Record.passportNumberKey (s.unindex p r).byPassportNumberHash :=
  ⟨hs.byComm.remove hlive (fun _ h => hr.eq h) fun _ => hashKey_of_key,
    hs.byNationalIDHash.remove hlive (fun _ h => hr.eq h) fun _ => hashKey_of_key,
    hs.byPassportNumberHash.remove hlive (fun _ h => hr.eq h) fun _ => hashKey_of_key⟩

theorem removeLocked_eq (hs : s.Consistent) (hr : s.Live p r) : s.removeLocked r.credentialID =
      { s.unindex p r with byID := Function.update s.byID r.credentialID none } := by
  rw [removeLocked, (lookup_eq_some hs).2 ⟨hr, rfl⟩]

theorem live_removeLocked (hs : s.Consistent) (hr : s.Live p r) :
    (s.removeLocked r.credentialID).Live q r' ↔ s.Live q r' ∧ q ≠ p := by
  rw [removeLocked_eq hs hr]
  simp only [Live, unindex]
  constructor
  · rintro ⟨hr', hid⟩
    by_cases hsame : r'.credentialID = r.credentialID
    · rw [hsame, Function.update_self] at hid
      cases hid
    · rw [Function.update_of_ne hsame] at hid
      refine ⟨⟨hr', hid⟩, ?_⟩
      rintro rfl
      exact hsame (congrArg Record.credentialID (hr.eq ⟨hr', hid⟩))
  · rintro ⟨⟨hr', hid⟩, hne⟩
    refine ⟨hr', ?_⟩
    rwa [Function.update_of_ne]
    intro hsame
    exact hne (Live.addr_eq ⟨hr', hid⟩ hr hsame)

theorem Consistent.removeLocked (hs : s.Consistent) (hr : s.Live p r) :
    (s.removeLocked r.credentialID).Consistent := by
  obtain ⟨hcomm, hnat, hpass⟩ := hs.unindex hr fun _ _ => live_removeLocked hs hr
  rw [removeLocked_eq hs hr] at hcomm hnat hpass ⊢
  refine ⟨?_, hcomm, hnat, hpass⟩
  intro id q hq
  have hid : Function.update s.byID r.credentialID none id = some q := hq
  by_cases hsame : id = r.credentialID
  · rw [hsame, Function.update_self] at hid
    cases hid
  · rw [Function.update_of_ne hsame] at hid
    exact hs.byID id q hid

/-! ### Revoking a record -/

theorem live_retire (hr : s.Live p r) :
    (s.retire p r).Live q r' ↔ (s.Live q r' ∧ q ≠ p) ∨ (q = p ∧ r' = r.retired) := by
  simp only [Live, retire, unindex]
  by_cases hq : q = p
  · subst hq
    rw [List.getElem?_set_self (lt_of_live hr)]
    constructor
    · rintro ⟨hr', -⟩
      exact .inr ⟨rfl, (Option.some.inj hr').symm⟩
    · rintro (⟨-, hne⟩ | ⟨-, rfl⟩)
      · exact absurd rfl hne
      · exact ⟨rfl, hr.2⟩
  · rw [List.getElem?_set_ne (Ne.symm hq)]
    constructor
    · intro h
      exact .inl ⟨h, hq⟩
    · rintro (⟨h, -⟩ | ⟨h, -⟩)
      · exact h
      · exact absurd h hq

theorem Consistent.retire (hs : s.Consistent) (hr : s.Live p r) : (s.retire p r).Consistent := by
  obtain ⟨hcomm, hnat, hpass⟩ := hs.unindex hr fun _ _ => Iff.rfl
  refine ⟨?_, ?_, ?_, ?_⟩
  · intro id q hq
    have hptr : s.byID id = some q := hq
    obtain ⟨r', hr', hid⟩ := hs.byID id q hptr
    by_cases hqp : q = p
    · subst hqp
      have hsame := hr.eq ⟨hr', by rw [hid, hptr]⟩
      subst hsame
      exact ⟨r'.retired, List.getElem?_set_self (lt_of_live hr), hid⟩
    · exact ⟨r', (List.getElem?_set_ne (Ne.symm hqp)).trans hr', hid⟩
  -- a revoked record has no key, so that no entry takes the place of the dropped ones
  · exact hcomm.insert (r := r.retired) (fun _ _ => live_retire hr) (by simp)
  · exact hnat.insert (r := r.retired) (fun _ _ => live_retire hr) (by simp)
  · exact hpass.insert (r := r.retired) (fun _ _ => live_retire hr) (by simp)

theorem restore_retire (hr : s.Live p r) : (s.retire p r).restore p r = s.unindex p r := by
  have hset : (s.heap.set p r.retired).set p r = s.heap := by
    rw [List.set_set]
    refine List.ext_getElem? fun q => ?_
    by_cases hq : q = p
    · subst hq
      rw [List.getElem?_set_self (lt_of_live hr), hr.1]
    · rw [List.getElem?_set_ne (Ne.symm hq)]
  simp only [restore, retire, unindex, hset]

theorem live_reindex (hr : s.Live p r) : ((s.unindex p r).indexLocked r).Live q r' ↔
      (s.Live q r' ∧ q ≠ p) ∨ (q = s.heap.length ∧ r' = r) := by
  simp only [Live, indexLocked, unindex]
  rcases Nat.lt_trichotomy q s.heap.length with hq | rfl | hq
  · rw [List.getElem?_append_left hq]
    by_cases hsame : r'.credentialID = r.credentialID
    · rw [hsame, Function.update_self]
      constructor
      · rintro ⟨-, hid⟩
        exact absurd (Option.some.inj hid) (Nat.ne_of_gt hq)
      · rintro (⟨⟨hr', hid⟩, hne⟩ | ⟨rfl, -⟩)
        · exact absurd (Live.addr_eq ⟨hr', by rw [hsame, hid]⟩ hr hsame) hne
        · exact absurd hq (Nat.lt_irrefl _)
    · rw [Function.update_of_ne hsame]
      constructor
      · intro h
        refine .inl ⟨h, ?_⟩
        rintro rfl
        exact hsame (congrArg Record.credentialID (hr.eq h))
      · rintro (⟨h, -⟩ | ⟨rfl, -⟩)
        · exact h
        · exact absurd hq (Nat.lt_irrefl _)
  · rw [List.getElem?_append_right (Nat.le_refl _), Nat.sub_self, List.getElem?_cons_zero]
    constructor
    · rintro ⟨hr', -⟩
      exact .inr ⟨rfl, (Option.some.inj hr').symm⟩
    · rintro (⟨⟨hr', -⟩, -⟩ | ⟨-, rfl⟩)
      · rw [List.getElem?_eq_none (Nat.le_refl _)] at hr'
        cases hr'
      · exact ⟨rfl, Function.update_self ..⟩
  · have hlen : (s.heap ++ [r]).length ≤ q := by
      simp only [List.length_append, List.length_singleton]
      omega
    rw [List.getElem?_eq_none hlen]
    constructor
    · rintro ⟨hr', -⟩
      cases hr'
    · rintro (⟨⟨hr', -⟩, -⟩ | ⟨rfl, -⟩)
      · rw [List.getElem?_eq_none (Nat.le_of_lt hq)] at hr'
        cases hr'
      · exact absurd hq (Nat.lt_irrefl _)

theorem Consistent.reindex (hs : s.Consistent) (hr : s.Live p r) :
    ((s.unindex p r).indexLocked r).Consistent := by
  obtain ⟨hcomm, hnat, hpass⟩ := hs.unindex hr fun _ _ => Iff.rfl
  -- the records that are left share no key with the one that was dropped
  have hrest : ∀ q r' h, s.Live q r' ∧ q ≠ p → ¬ ((r.commKey = some h ∧ r'.commKey = some h) ∨
      (r.nationalIDKey = some h ∧ r'.nationalIDKey = some h) ∨
      (r.passportNumberKey = some h ∧ r'.passportNumberKey = some h)) := by
    rintro q r' h ⟨hr', hne⟩ (⟨hk, hk'⟩ | ⟨hk, hk'⟩ | ⟨hk, hk'⟩)
    · exact hne (hs.byComm.unique hr' hr hk' hk)
    · exact hne (hs.byNationalIDHash.unique hr' hr hk' hk)
    · exact hne (hs.byPassportNumberHash.unique hr' hr hk' hk)
  refine ⟨?_, ?_, ?_, ?_⟩
  · intro id q hq
    have hptr : Function.update s.byID r.credentialID (some s.heap.length) id = some q := hq
    by_cases hsame : id = r.credentialID
    · rw [hsame, Function.update_self] at hptr
      cases hptr
      refine ⟨r, ?_, hsame.symm⟩
      exact (List.getElem?_append_right (Nat.le_refl _)).trans (by simp)
    · rw [Function.update_of_ne hsame] at hptr
      obtain ⟨r', hr', hid⟩ := hs.byID id q hptr
      exact ⟨r', (List.getElem?_append_left (List.getElem?_eq_some_iff.1 hr').1).trans hr', hid⟩
  · exact hcomm.insert (fun _ _ => live_reindex hr)
      fun h hk q r' hr' hk' => hrest q r' h hr' (.inl ⟨hk, hk'⟩)
  · exact hnat.insert (fun _ _ => live_reindex hr)
      fun h hk q r' hr' hk' => hrest q r' h hr' (.inr (.inl ⟨hk, hk'⟩))
  · exact hpass.insert (fun _ _ => live_reindex hr)
      fun h hk q r' hr' hk' => hrest q r' h hr' (.inr (.inr ⟨hk, hk'⟩))

/-! ### The file -/

theorem mem_records : r ∈ s.records ↔ s.Has r := by
  simp only [records, List.mem_filterMap, List.mem_range, Option.filter_eq_some_iff,
    beq_iff_eq]
  constructor
  · rintro ⟨p, -, hr, hid⟩
    exact ⟨p, hr, hid⟩
  · rintro ⟨p, hr⟩
    exact ⟨p, lt_of_live hr, hr.1, hr.2⟩

theorem Consistent.addr_eq_of_clash (hs : s.Consistent) (hr : s.Live p r) (hr' : s.Live q r')
    (h : r.Clash r') : p = q := by
  rcases h with hid | ⟨h, ⟨hk, hk'⟩ | ⟨hk, hk'⟩ | ⟨hk, hk'⟩⟩
  · exact Live.addr_eq hr hr' hid
  · exact hs.byComm.unique hr hr' hk hk'
  · exact hs.byNationalIDHash.unique hr hr' hk hk'
  · exact hs.byPassportNumberHash.unique hr hr' hk hk'

theorem Consistent.pairwise_records (hs : s.Consistent) :
    s.records.Pairwise fun r r' => ¬ r'.Clash r := by
  rw [records, List.pairwise_filterMap]
  refine List.Pairwise.imp ?_ List.pairwise_lt_range
  intro p q hpq r hr r' hr' hclash
  simp only [Option.filter_eq_some_iff, beq_iff_eq] at hr hr'
  have := hs.addr_eq_of_clash hr' hr hclash
  exact absurd this (Nat.ne_of_gt hpq)

/-- The file of the store holds the records of the store. -/
def Saved (s : Store) : Prop :=
  ∀ file, s.file = some file →
    (∀ r, r ∈ file ↔ s.Has r) ∧ file.Pairwise fun r r' => ¬ r'.Clash r

/-- The pointers of the store lead where they should, and its file is up to date. -/
structure Sound (s : Store) : Prop where
  consistent : s.Consistent
  saved : s.Saved

theorem sound_of_saveLocked {s' : Store} {writes : Bool} (hs : s.Consistent)
    (h : s.saveLocked writes = some s') : s'.Sound ∧ ∀ r, s'.Has r ↔ s.Has r := by
  unfold saveLocked at h
  split at h
  · rename_i hfile
    cases h
    refine ⟨⟨hs, ?_⟩, fun _ => Iff.rfl⟩
    intro file hf
    rw [hfile] at hf
    cases hf
  · split at h
    · cases h
      refine ⟨⟨⟨hs.byID, hs.byComm, hs.byNationalIDHash, hs.byPassportNumberHash⟩, ?_⟩,
        fun _ => Iff.rfl⟩
      intro file hf
      cases hf
      exact ⟨fun _ => mem_records, hs.pairwise_records⟩
    · cases h

theorem saved_of_has {s' : Store} (hs : s.Saved) (hfile : s'.file = s.file)
    (hhas : ∀ r, s'.Has r ↔ s.Has r) : s'.Saved := by
  intro file hf
  obtain ⟨hmem, hpair⟩ := hs file (hfile ▸ hf)
  exact ⟨fun r => (hmem r).trans (hhas r).symm, hpair⟩

/-- **A credential that clashes with none of the store's is recorded**, or, when the file
cannot be written, the store keeps the records it had. -/
theorem Sound.add (hs : s.Sound) (h : s.Admits r) (writes : Bool) :
    (s.add r writes).2.Sound ∧ ∀ r', (s.add r writes).2.Has r' ↔
      s.Has r' ∨ ((s.add r writes).1 = .ok () ∧ r' = r) := by
  have hnew := hs.consistent.byID_eq_none h
  have hindexed := hs.consistent.indexLocked h
  unfold Store.add
  split
  · rename_i s' hsave
    obtain ⟨hsound, hsame⟩ := sound_of_saveLocked hindexed hsave
    refine ⟨hsound, fun r' => ?_⟩
    rw [hsame, has_indexLocked hnew]
    simp
  · have hlive : (s.indexLocked r).Live s.heap.length r :=
      (live_indexLocked hnew).2 (.inr ⟨rfl, rfl⟩)
    have hback : ∀ r', ((s.indexLocked r).removeLocked r.credentialID).Has r' ↔ s.Has r' := by
      intro r'
      constructor
      · rintro ⟨q, hq⟩
        obtain ⟨hq, hne⟩ := (live_removeLocked hindexed hlive).1 hq
        rcases (live_indexLocked hnew).1 hq with hq | ⟨rfl, -⟩
        · exact ⟨q, hq⟩
        · exact absurd rfl hne
      · rintro ⟨q, hq⟩
        refine ⟨q, (live_removeLocked hindexed hlive).2
          ⟨(live_indexLocked hnew).2 (.inl hq), ?_⟩⟩
        exact Nat.ne_of_lt (lt_of_live hq)
    refine ⟨⟨hindexed.removeLocked hlive, saved_of_has hs.saved ?_ hback⟩, fun r' => ?_⟩
    · rw [removeLocked_eq hindexed hlive]
      rfl
    · rw [hback]
      simp

theorem has_retire (hr : s.Live p r) :
    (s.retire p r).Has r' ↔
      ∃ x, s.Has x ∧ r' = if x.credentialID = r.credentialID then x.retired else x := by
  constructor
  · rintro ⟨q, hq⟩
    rcases (live_retire hr).1 hq with ⟨hq, hne⟩ | ⟨-, rfl⟩
    · refine ⟨r', ⟨q, hq⟩, ?_⟩
      rw [if_neg]
      intro hid
      exact hne (Live.addr_eq hq hr hid)
    · exact ⟨r, ⟨p, hr⟩, by rw [if_pos rfl]⟩
  · rintro ⟨x, ⟨q, hq⟩, rfl⟩
    split
    · rename_i hid
      have hqp := Live.addr_eq hq hr hid
      subst hqp
      rw [hr.eq hq]
      exact ⟨q, (live_retire hr).2 (.inr ⟨rfl, rfl⟩)⟩
    · rename_i hid
      refine ⟨q, (live_retire hr).2 (.inl ⟨hq, ?_⟩)⟩
      rintro rfl
      rw [hr.eq hq] at hid
      exact hid rfl

theorem has_reindex (hr : s.Live p r) : ((s.unindex p r).indexLocked r).Has r' ↔ s.Has r' := by
  constructor
  · rintro ⟨q, hq⟩
    rcases (live_reindex hr).1 hq with ⟨hq, -⟩ | ⟨-, rfl⟩
    · exact ⟨q, hq⟩
    · exact ⟨p, hr⟩
  · rintro ⟨q, hq⟩
    by_cases hqp : q = p
    · subst hqp
      rw [hr.eq hq]
      exact ⟨s.heap.length, (live_reindex hr).2 (.inr ⟨rfl, rfl⟩)⟩
    · exact ⟨q, (live_reindex hr).2 (.inl ⟨hq, hqp⟩)⟩

/-- **A revocation marks one record**, or, when the file cannot be written, none. -/
theorem Sound.revoke (hs : s.Sound) (id : String) (writes : Bool) :
    (s.revoke id writes).2.Sound ∧ ∀ r', (s.revoke id writes).2.Has r' ↔
      ∃ r, s.Has r ∧ r' = if r.credentialID = id ∧ (s.revoke id writes).1 = .ok ()
        then r.retired else r := by
  unfold Store.revoke
  split
  · refine ⟨hs, fun r' => ?_⟩
    simp
  · rename_i p r hlookup
    obtain ⟨hr, hid⟩ := (lookup_eq_some hs.consistent).1 hlookup
    subst hid
    split
    · rename_i hrev
      refine ⟨hs, fun r' => ?_⟩
      -- the record was revoked before
      have hsame : ∀ x, s.Has x →
          (if x.credentialID = r.credentialID then x.retired else x) = x := by
        rintro x ⟨q, hq⟩
        split
        · rename_i hx
          have hqp := Live.addr_eq hq hr hx
          subst hqp
          rw [hr.eq hq, Record.retired, ← hrev]
        · rfl
      simp only [and_true]
      constructor
      · intro h
        exact ⟨r', h, (hsame r' h).symm⟩
      · rintro ⟨x, hx, rfl⟩
        rwa [hsame x hx]
    · split
      · rename_i s' hsave
        obtain ⟨hsound, hsame⟩ := sound_of_saveLocked (hs.consistent.retire hr) hsave
        refine ⟨hsound, fun r' => ?_⟩
        rw [hsame, has_retire hr]
        simp only [and_true]
      · rw [restore_retire hr]
        refine ⟨⟨hs.consistent.reindex hr, saved_of_has hs.saved rfl fun _ => has_reindex hr⟩,
          fun r' => ?_⟩
        rw [has_reindex hr]
        simp

/-! ### Reloading the file -/

/-- Records that do not clash are indexed one after the other. -/
theorem Consistent.foldl_indexLocked (hs : s.Consistent) {rs : List Record}
    (hadm : ∀ r ∈ rs, s.Admits r) (hpair : rs.Pairwise fun r r' => ¬ r'.Clash r) :
    (rs.foldl Store.indexLocked s).Consistent ∧
      ∀ r, (rs.foldl Store.indexLocked s).Has r ↔ s.Has r ∨ r ∈ rs := by
  induction rs generalizing s with
  | nil => exact ⟨hs, fun r => by simp⟩
  | cons r rs ih =>
    rw [List.pairwise_cons] at hpair
    have hr := hadm r List.mem_cons_self
    have hnew := hs.byID_eq_none hr
    have hrest : ∀ x ∈ rs, (s.indexLocked r).Admits x := by
      intro x hx q r' hr' hclash
      rcases (live_indexLocked hnew).1 hr' with hq | ⟨-, rfl⟩
      · exact hadm x (List.mem_cons_of_mem _ hx) q r' hq hclash
      · exact hpair.1 x hx hclash
    obtain ⟨hcons, hhas⟩ := ih (hs.indexLocked hr) hrest hpair.2
    refine ⟨hcons, fun x => ?_⟩
    rw [List.foldl_cons, hhas, has_indexLocked hnew, List.mem_cons, or_assoc]

theorem consistent_empty (file : Option (List Record)) :
    ({ file } : Store).Consistent ∧ ∀ r, ¬ ({ file } : Store).Has r := by
  have hlive : ∀ p r, ¬ ({ file } : Store).Live p r := by
    rintro p r ⟨hr, -⟩
    cases hr
  refine ⟨⟨?_, indexes_empty hlive, indexes_empty hlive, indexes_empty hlive⟩, ?_⟩
  · intro id p hp
    cases hp
  · rintro r ⟨p, hr⟩
    exact hlive p r hr

end Store

open Store

/-- A new store is sound, and has no record. -/
theorem sound_newStore : newStore.Sound ∧ ∀ r, ¬ newStore.Has r := by
  obtain ⟨hcons, hhas⟩ := consistent_empty none
  refine ⟨⟨hcons, ?_⟩, hhas⟩
  intro file hf
  cases hf

/-- **The reload of a file brings back its records**, when they do not clash. -/
theorem sound_newFileStore {file : Option (List Record)} {s : Store}
    (hpair : ∀ rs, file = some rs → rs.Pairwise fun r r' => ¬ r'.Clash r)
    (h : newFileStore file = some s) :
    s.Sound ∧ ∀ r, s.Has r ↔ ∃ rs, file = some rs ∧ r ∈ rs := by
  cases file with
  | none =>
    cases h
    obtain ⟨hcons, hhas⟩ := consistent_empty (some [])
    refine ⟨⟨hcons, ?_⟩, fun r => by simp [hhas]⟩
    intro file hf
    cases hf
    simp [hhas]
  | some rs =>
    simp only [newFileStore, load] at h
    split at h
    · cases h
    · cases h
      obtain ⟨hcons, hnone⟩ := consistent_empty (some rs)
      obtain ⟨hload, hhas⟩ := hcons.foldl_indexLocked
        (fun r (_ : r ∈ rs) q r' hr' _ => hnone r' ⟨q, hr'⟩) (hpair rs rfl)
      have hmem : ∀ r, (rs.foldl Store.indexLocked { file := some rs }).Has r ↔ r ∈ rs := by
        intro r
        rw [hhas]
        simp [hnone]
      have hfile : ∀ (l : List Record) (t : Store), (l.foldl Store.indexLocked t).file
        = t.file := by
        intro l
        induction l with
        | nil => exact fun t => rfl
        | cons x l ih => exact fun t => ih (t.indexLocked x)
      refine ⟨⟨hload, ?_⟩, fun r => by simp [hmem]⟩
      intro file hf
      rw [hfile] at hf
      cases hf
      exact ⟨fun r => (hmem r).symm, hpair rs rfl⟩

/-! ### What the lookups find -/

namespace Store

theorem activeAt_index {s : Store} {key : Record → Option String} {index : String → Option Addr}
    (hix : Indexes s.Live key index) (hact : ∀ r h, key r = some h → r.status = .active)
    (h : String) : s.activeAt (index h) = true ↔ ∃ r, s.Has r ∧ key r = some h := by
  cases hp : index h with
  | none =>
    constructor
    · intro hn
      cases hn
    · rintro ⟨r, ⟨p, hr⟩, hk⟩
      rw [(hix h p).2 ⟨r, hr, hk⟩] at hp
      cases hp
  | some p =>
    obtain ⟨r, hr, hk⟩ := (hix h p).1 hp
    have hactive : s.activeAt (some p) = true := by
      simp [activeAt, hr.1, hact r h hk]
    exact ⟨fun _ => ⟨r, ⟨p, hr⟩, hk⟩, fun _ => hactive⟩

theorem active_of_key {r : Record} {h k : String} (hk : r.key h = some k) : r.status = .active :=
  (Record.key_eq_some.1 hk).1

/-- **A commitment is free exactly when no active record has it**, as its commitment or
as its national-id hash. -/
theorem Consistent.checkDuplicate {s : Store} (hs : s.Consistent) (c : String) :
    s.checkDuplicate c = .ok () ↔
      ∀ r, s.Has r → r.nationalIDKey ≠ some c ∧ r.commKey ≠ some c := by
  have hnat := activeAt_index hs.byNationalIDHash (fun r _ => active_of_key) c
  have hcomm := activeAt_index hs.byComm (fun r _ => active_of_key) c
  have hfound : s.activeAt ((s.byNationalIDHash c).or (s.byComm c)) = true ↔
      s.activeAt (s.byNationalIDHash c) = true ∨ s.activeAt (s.byComm c) = true := by
    cases hp : s.byNationalIDHash c with
    | none =>
      rw [Option.none_or]
      simp [activeAt]
    | some p =>
      have hactive : s.activeAt (some p) = true := by
        rw [← hp, hnat]
        obtain ⟨r, hr, hk⟩ := (hs.byNationalIDHash c p).1 hp
        exact ⟨r, ⟨p, hr⟩, hk⟩
      rw [Option.some_or]
      simp [hactive]
  unfold Store.checkDuplicate
  rw [hnat, hcomm] at hfound
  dsimp only
  split
  · rename_i hdup
    rcases hfound.1 hdup with ⟨r, hr, hk⟩ | ⟨r, hr, hk⟩
    · simp only [reduceCtorEq, false_iff]
      exact fun hall => (hall r hr).1 hk
    · simp only [reduceCtorEq, false_iff]
      exact fun hall => (hall r hr).2 hk
  · rename_i hdup
    simp only [true_iff]
    intro r hr
    exact ⟨fun hk => hdup (hfound.2 (.inl ⟨r, hr, hk⟩)),
      fun hk => hdup (hfound.2 (.inr ⟨r, hr, hk⟩))⟩

/-- **A personhood binding is free exactly when no active record has either hash.** -/
theorem Consistent.checkDuplicatePersonhoodBinding {s : Store} (hs : s.Consistent)
    (nat pass : String) : s.checkDuplicatePersonhoodBinding nat pass = .ok () ↔
      ∀ r, s.Has r → r.nationalIDKey ≠ some nat ∧ r.passportNumberKey ≠ some pass := by
  have hnat := activeAt_index hs.byNationalIDHash (fun r _ => active_of_key) nat
  have hpass := activeAt_index hs.byPassportNumberHash (fun r _ => active_of_key) pass
  have hempty : ∀ r, Record.nationalIDKey r ≠ some "" ∧ Record.passportNumberKey r ≠ some "" := by
    intro r
    exact ⟨fun hk => (Record.key_eq_some.1 hk).2.1 (Record.key_eq_some.1 hk).2.2,
      fun hk => (Record.key_eq_some.1 hk).2.1 (Record.key_eq_some.1 hk).2.2⟩
  -- the lookup by national-id hash, which an empty hash skips
  have hfirst : s.activeAt (if nat ≠ "" then s.byNationalIDHash nat else none) = true ↔
      ∃ r, s.Has r ∧ r.nationalIDKey = some nat := by
    split
    · exact hnat
    · rename_i hn
      simp only [ne_eq, not_not] at hn
      subst hn
      simp [activeAt, hempty]
  generalize hf : (if nat ≠ "" then s.byNationalIDHash nat else none) = first at hfirst
  generalize hg : (if ¬ s.activeAt first ∧ pass ≠ "" then s.byPassportNumberHash pass
    else first) = found
  have hfound : s.activeAt found = true ↔ (∃ r, s.Has r ∧ r.nationalIDKey = some nat) ∨
      ∃ r, s.Has r ∧ r.passportNumberKey = some pass := by
    rw [← hfirst, ← hg]
    split
    · rename_i hp
      rw [hpass]
      simp [hp.1]
    · rename_i hp
      rw [not_and_or, not_not, ne_eq, not_not] at hp
      rcases hp with hp | rfl
      · simp [hp]
      · simp [hempty]
  unfold Store.checkDuplicatePersonhoodBinding
  dsimp only
  rw [hf, hg]
  split
  · rename_i hdup
    simp only [reduceCtorEq, false_iff]
    intro hall
    rcases hfound.1 hdup with ⟨r, hr, hk⟩ | ⟨r, hr, hk⟩
    · exact (hall r hr).1 hk
    · exact (hall r hr).2 hk
  · rename_i hdup
    simp only [true_iff]
    intro r hr
    exact ⟨fun hk => hdup (hfound.2 (.inl ⟨r, hr, hk⟩)),
      fun hk => hdup (hfound.2 (.inr ⟨r, hr, hk⟩))⟩

end Store

end Ansible.Vc
