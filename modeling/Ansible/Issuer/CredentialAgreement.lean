import Ansible.Issuer.CredentialStore
import Ansible.Issuer.PostgresStore
import Ansible.Lib.Run
import Ansible.Lib.Table

/-!
# The two credential stores side by side

Over PostgreSQL, the records are rows whose empty hashes are null, and partial unique indexes keep
two active rows from having one hash.  The store in memory overwrites an index instead, and reads a
binding without a passport-number hash, which the scan of a null column refuses.

## Main definitions

* `BindingRow`, `PersonhoodIndexes`, `PostgresStore` — the table.
* `PostgresStore.add`, `revoke`, `checkDuplicate`, … — the statements on it.
* `CredentialCall`, `Stores`, `callStores` — calls of both stores.
* `Conforms` — the calls that both stores answer alike.

## Main results

* `storesAgree_iff` — **in a run of calls the stores answer alike exactly when each conforms.**
-/

namespace Ansible.Vc

open Hosted (isText)

/-! ### The table -/

/-- A row of `personhood_bindings`. -/
structure BindingRow where
  credentialID : String
  holderDID : String
  commitment : Option String
  nationalIDHash : Option String
  passportNumberHash : Option String
  status : CredentialStatus
  deriving DecidableEq, Repr

namespace BindingRow

/-- `status = 0 AND column IS NOT NULL AND column <> ''` -/
def indexed (r : BindingRow) (column : Option String) : Bool :=
  r.status == .active && column.any (· != "")

end BindingRow

/-- The primary key and the partial unique indexes. -/
structure PersonhoodIndexes (rows : List BindingRow) : Prop where
  credentialID : UniqueOn BindingRow.credentialID (fun _ => true) rows
  commitment : UniqueOn BindingRow.commitment (fun r => r.indexed r.commitment) rows
  nationalID : UniqueOn BindingRow.nationalIDHash (fun r => r.indexed r.nationalIDHash) rows
  passport : UniqueOn BindingRow.passportNumberHash (fun r => r.indexed r.passportNumberHash) rows

instance : DecidablePred PersonhoodIndexes := fun _ =>
  decidable_of_iff (_ ∧ _ ∧ _ ∧ _)
    ⟨fun ⟨h, h', h'', h'''⟩ => ⟨h, h', h'', h'''⟩, fun ⟨h, h', h'', h'''⟩ => ⟨h, h', h'', h'''⟩⟩

abbrev PostgresStore := Table BindingRow PersonhoodIndexes

/-- What a call fails with: an answer of the store, or a text that the server does not take. -/
inductive Failure where
  | refused (e : VcError)
  | badText
  deriving DecidableEq, Repr

def nullable (value : String) : Option String := if value = "" then none else some value

/-- The row of a record. -/
def Record.row (r : Record) : BindingRow where
  credentialID := r.credentialID
  holderDID := r.holderDID
  commitment := nullable r.commitment
  nationalIDHash := nullable r.nationalIDHash
  passportNumberHash := nullable r.passportNumberHash
  status := r.status

def Record.AreTexts (r : Record) : Prop :=
  ∀ text ∈ [r.credentialID, r.holderDID, r.commitment, r.nationalIDHash, r.passportNumberHash],
    isText text

instance (r : Record) : Decidable r.AreTexts := inferInstanceAs (Decidable (∀ _ ∈ _, _))

namespace PostgresStore

def empty : PostgresStore := ⟨[], by decide⟩

/-- `SELECT EXISTS(…)`, with an answer of the store when there is such a row. -/
def unlessExists (t : PostgresStore) (p : BindingRow → Bool) (e : VcError) : Except Failure Unit :=
  if t.rows.any p then .error (.refused e) else .ok ()

def checkDuplicate (t : PostgresStore) (commitment : String) : Except Failure Unit :=
  if commitment = "" then .ok ()
  else if ¬ isText commitment then .error .badText
  else t.unlessExists (fun r => r.status == .active &&
    (r.commitment == some commitment || r.nationalIDHash == some commitment))
      .duplicateActiveCredential

def checkDuplicateAny (t : PostgresStore) (commitments : List String) : Except Failure Unit :=
  let filtered := commitments.filter (· != "")
  if filtered.isEmpty then .ok ()
  else if ¬ filtered.all isText then .error .badText
  else t.unlessExists (fun r => r.status == .active &&
    (r.commitment.any (filtered.contains ·) || r.nationalIDHash.any (filtered.contains ·)))
      .duplicateActiveCredential

def checkDuplicatePersonhoodBinding (t : PostgresStore)
    (nationalIDHash passportNumberHash : String) : Except Failure Unit :=
  if ¬ isText nationalIDHash ∨ ¬ isText passportNumberHash then .error .badText
  else t.unlessExists (fun r => r.status == .active &&
    ((r.nationalIDHash == some nationalIDHash && nationalIDHash != "") ||
      (r.passportNumberHash == some passportNumberHash && passportNumberHash != "")))
        .duplicatePersonhoodBinding

/-- Every violated index is reported as a duplicate of an active credential. -/
def add (t : PostgresStore) (r : Record) : Except Failure Unit × PostgresStore :=
  if ¬ r.AreTexts then (.error .badText, t)
  else
    match t.insert r.row with
    | some t' => (.ok (), t')
    | none => (.error (.refused .duplicateActiveCredential), t)

/-- The scan of a null column into a string fails. -/
def personhoodBindingByNationalIDHash (t : PostgresStore) (nationalIDHash : String) :
    Option PersonhoodBinding :=
  if nationalIDHash = "" ∨ ¬ isText nationalIDHash then none
  else do
    let r ← t.find fun r => r.nationalIDHash == some nationalIDHash && r.status == .active
    let national ← r.nationalIDHash
    let passport ← r.passportNumberHash
    return ⟨national, passport, r.credentialID, r.holderDID, r.status⟩

def status (t : PostgresStore) (credentialID : String) : Option CredentialStatus :=
  if ¬ isText credentialID then none
  else (t.find fun r => r.credentialID == credentialID).map (·.status)

/-- A row with its credential revoked, when it is the one. -/
def retireRow (credentialID : String) (r : BindingRow) : BindingRow :=
  if r.credentialID == credentialID then { r with status := .revoked } else r

theorem uniqueOn_retireRow {column : BindingRow → Option String} {rows : List BindingRow}
    (h : UniqueOn column (fun r => r.indexed (column r)) rows) (credentialID : String)
    (hcolumn : ∀ r : BindingRow, column { r with status := .revoked } = column r) :
    UniqueOn column (fun r => r.indexed (column r)) (rows.map (retireRow credentialID)) := by
  refine h.map (fun r => ?_) fun r hr => ?_
  · unfold retireRow
    split
    · exact hcolumn r
    · rfl
  · unfold retireRow at hr
    split at hr
    · cases hr
    · exact hr

/-- `UPDATE personhood_bindings SET status = 1 WHERE credential_id = …` -/
def retire (t : PostgresStore) (credentialID : String) : PostgresStore where
  rows := t.rows.map (retireRow credentialID)
  valid := ⟨t.valid.credentialID.map (fun r => by unfold retireRow; split <;> rfl) fun _ _ => rfl,
    uniqueOn_retireRow t.valid.commitment _ fun _ => rfl,
    uniqueOn_retireRow t.valid.nationalID _ fun _ => rfl,
    uniqueOn_retireRow t.valid.passport _ fun _ => rfl⟩

def revoke (t : PostgresStore) (credentialID : String) : Except Failure Unit × PostgresStore :=
  if ¬ isText credentialID then (.error .badText, t)
  else if t.rows.any (·.credentialID == credentialID) then (.ok (), t.retire credentialID)
  else (.error (.refused .credentialNotFound), t)

end PostgresStore

/-! ### Calls -/

inductive CredentialCall where
  | add (r : Record)
  | revoke (credentialID : String)
  | status (credentialID : String)
  | checkDuplicate (commitment : String)
  | checkDuplicateAny (commitments : List String)
  | checkDuplicatePersonhoodBinding (nationalIDHash passportNumberHash : String)
  | personhoodBindingByNationalIDHash (nationalIDHash : String)

inductive CredentialReply where
  | done
  | failed (e : Failure)
  | status (s : Option CredentialStatus)
  | binding (b : Option PersonhoodBinding)
  deriving DecidableEq, Repr

def CredentialReply.of : Except Failure Unit → CredentialReply
  | .ok () => .done
  | .error e => .failed e

/-- An answer of the store in memory. -/
def refusing : Except VcError Unit → Except Failure Unit
  | .ok () => .ok ()
  | .error e => .error (.refused e)

/-- The two stores. -/
structure Stores where
  memory : Store
  postgres : PostgresStore

/-- A call of the store in memory; its file, when it has one, can be written. -/
def callMemory (s : Store) : CredentialCall → CredentialReply × Store
  | .add r => (.of (refusing (s.add r true).1), (s.add r true).2)
  | .revoke credentialID =>
    (.of (refusing (s.revoke credentialID true).1), (s.revoke credentialID true).2)
  | .status credentialID => (.status (s.status credentialID), s)
  | .checkDuplicate commitment => (.of (refusing (s.checkDuplicate commitment)), s)
  | .checkDuplicateAny commitments => (.of (refusing (s.checkDuplicateAny commitments)), s)
  | .checkDuplicatePersonhoodBinding nationalIDHash passportNumberHash =>
    (.of (refusing (s.checkDuplicatePersonhoodBinding nationalIDHash passportNumberHash)), s)
  | .personhoodBindingByNationalIDHash nationalIDHash =>
    (.binding (s.personhoodBindingByNationalIDHash nationalIDHash), s)

def callPostgres (t : PostgresStore) : CredentialCall → CredentialReply × PostgresStore
  | .add r => (.of (t.add r).1, (t.add r).2)
  | .revoke credentialID => (.of (t.revoke credentialID).1, (t.revoke credentialID).2)
  | .status credentialID => (.status (t.status credentialID), t)
  | .checkDuplicate commitment => (.of (t.checkDuplicate commitment), t)
  | .checkDuplicateAny commitments => (.of (t.checkDuplicateAny commitments), t)
  | .checkDuplicatePersonhoodBinding nationalIDHash passportNumberHash =>
    (.of (t.checkDuplicatePersonhoodBinding nationalIDHash passportNumberHash), t)
  | .personhoodBindingByNationalIDHash nationalIDHash =>
    (.binding (t.personhoodBindingByNationalIDHash nationalIDHash), t)

def callStores (ss : Stores) (call : CredentialCall) : Stores :=
  ⟨(callMemory ss.memory call).2, (callPostgres ss.postgres call).2⟩

/-- Both stores answer a call alike. -/
def SameReply (ss : Stores) (call : CredentialCall) : Prop :=
  (callMemory ss.memory call).1 = (callPostgres ss.postgres call).1

instance (ss : Stores) (call : CredentialCall) : Decidable (SameReply ss call) :=
  inferInstanceAs (Decidable (_ = _))

/-- The texts of a call can be stored; an added record clashes with none of the store, and a
binding that is read has a passport-number hash. -/
def Conforms (s : Store) : CredentialCall → Prop
  | .add r => r.AreTexts ∧ ∀ x ∈ s.records, ¬ r.Clash x
  | .revoke credentialID => isText credentialID
  | .status _ => True
  | .checkDuplicate commitment => isText commitment
  | .checkDuplicateAny commitments => ∀ c ∈ commitments, isText c
  | .checkDuplicatePersonhoodBinding nationalIDHash passportNumberHash =>
    isText nationalIDHash ∧ isText passportNumberHash
  | .personhoodBindingByNationalIDHash nationalIDHash =>
    ∀ x ∈ s.records, x.nationalIDKey = some nationalIDHash → x.passportNumberHash ≠ ""

/-! ### One row for each record -/

/-- The table has a row for each record of the store in memory. -/
structure Simulates (ss : Stores) : Prop where
  sound : ss.memory.Sound
  rows : ∀ x, x ∈ ss.postgres.rows ↔ ∃ r, ss.memory.Has r ∧ r.row = x
  texts : ∀ r, ss.memory.Has r → r.AreTexts

theorem nullable_eq_some {v h : String} : nullable v = some h ↔ v ≠ "" ∧ v = h := by
  unfold nullable
  split
  · next hv => simp [hv]
  · next hv => simp [hv]

theorem retireRow_row (id : String) (r : Record) : PostgresStore.retireRow id r.row =
    (if r.credentialID = id then r.retired else r).row := by
  rw [PostgresStore.retireRow, show r.row.credentialID = r.credentialID from rfl]
  by_cases hid : r.credentialID = id
  · rw [if_pos (beq_iff_eq.2 hid), if_pos hid]
    rfl
  · rw [if_neg (mt beq_iff_eq.1 hid), if_neg hid]

theorem key_eq_some_iff_row {r : Record} {v h : String} :
    r.key v = some h ↔ r.status = .active ∧ nullable v = some h := by
  rw [Record.key_eq_some, nullable_eq_some]

theorem indexed_row {r : Record} {v : String} :
    r.row.indexed (nullable v) = true ↔ r.status = .active ∧ v ≠ "" := by
  rw [BindingRow.indexed, Bool.and_eq_true, beq_iff_eq, Option.any_eq_true]
  refine and_congr_right fun _ => ?_
  constructor
  · rintro ⟨h, hv, -⟩
    exact (nullable_eq_some.1 hv).1
  · intro hv
    exact ⟨v, nullable_eq_some.2 ⟨hv, rfl⟩, bne_iff_ne.2 hv⟩

/-- Some partial index has one key for the rows of two records. -/
theorem sharesKey_iff {r r' : Record} : r.SharesKey r' ↔ r.status = .active ∧
    r'.status = .active ∧ ((r.commitment ≠ "" ∧ r'.commitment = r.commitment) ∨
      (r.nationalIDHash ≠ "" ∧ r'.nationalIDHash = r.nationalIDHash) ∨
      (r.passportNumberHash ≠ "" ∧ r'.passportNumberHash = r.passportNumberHash)) := by
  simp only [Record.SharesKey, Record.commKey, Record.nationalIDKey, Record.passportNumberKey,
    Record.key_eq_some]
  constructor
  · rintro ⟨h, ⟨⟨ha, hne, rfl⟩, ha', -, heq⟩ | ⟨⟨ha, hne, rfl⟩, ha', -, heq⟩ |
      ⟨⟨ha, hne, rfl⟩, ha', -, heq⟩⟩
    · exact ⟨ha, ha', .inl ⟨hne, heq⟩⟩
    · exact ⟨ha, ha', .inr (.inl ⟨hne, heq⟩)⟩
    · exact ⟨ha, ha', .inr (.inr ⟨hne, heq⟩)⟩
  · rintro ⟨ha, ha', ⟨hne, heq⟩ | ⟨hne, heq⟩ | ⟨hne, heq⟩⟩
    · exact ⟨_, .inl ⟨⟨ha, hne, rfl⟩, ha', heq ▸ hne, heq⟩⟩
    · exact ⟨_, .inr (.inl ⟨⟨ha, hne, rfl⟩, ha', heq ▸ hne, heq⟩)⟩
    · exact ⟨_, .inr (.inr ⟨⟨ha, hne, rfl⟩, ha', heq ▸ hne, heq⟩)⟩

/-! ### Replies -/

theorem badText_ne (reply : Except VcError Unit) : refusing reply ≠ .error .badText := by
  cases reply with
  | ok => intro heq; cases heq
  | error e => intro heq; cases heq

theorem of_injective {a b : Except Failure Unit} :
    CredentialReply.of a = CredentialReply.of b ↔ a = b := by
  refine ⟨fun heq => ?_, congrArg _⟩
  cases a <;> cases b <;> cases heq <;> rfl

theorem Store.checkDuplicate_eq (s : Store) (c : String) :
    s.checkDuplicate c = .ok () ∨ s.checkDuplicate c = .error .duplicateActiveCredential := by
  unfold Store.checkDuplicate
  dsimp only
  split
  · exact .inr rfl
  · exact .inl rfl

theorem Store.checkDuplicateAny_eq (s : Store) (cs : List String) :
    (s.checkDuplicateAny cs = .ok () ∨
      s.checkDuplicateAny cs = .error .duplicateActiveCredential) ∧
    (s.checkDuplicateAny cs = .ok () ↔ ∀ c ∈ cs, c ≠ "" → s.checkDuplicate c = .ok ()) := by
  induction cs with
  | nil => exact ⟨.inl rfl, fun _ c hc => absurd hc List.not_mem_nil, fun _ => rfl⟩
  | cons c cs ih =>
    rw [Store.checkDuplicateAny, List.forall_mem_cons]
    split
    · next hempty =>
      exact ⟨ih.1, ih.2.trans (and_iff_right fun hne => absurd hempty hne).symm⟩
    · next hne =>
      rcases s.checkDuplicate_eq c with hok | herror
      · rw [hok]
        refine ⟨ih.1, ih.2.trans (and_iff_right fun _ => rfl).symm⟩
      · rw [herror]
        exact ⟨.inr rfl, iff_of_false (by intro heq; cases heq) fun hall => by cases hall.1 hne⟩

theorem isText_empty : isText "" = true := by decide

section Calls

variable {ss : Stores} (h : Simulates ss)
include h

/-- A record is refused by an index exactly when it clashes with one of the store. -/
theorem Simulates.indexes_append (r : Record) : PersonhoodIndexes (ss.postgres.rows ++ [r.row]) ↔
    ∀ x, ss.memory.Has x → ¬ r.Clash x := by
  have hvalid := ss.postgres.valid
  have hindex : ∀ {column : BindingRow → Option String} {value : Record → String},
      (∀ x : Record, column x.row = nullable (value x)) →
      UniqueOn column (fun x => x.indexed (column x)) ss.postgres.rows →
      (UniqueOn column (fun x => x.indexed (column x)) (ss.postgres.rows ++ [r.row]) ↔
        ∀ x, ss.memory.Has x → r.status = .active → x.status = .active →
          value r ≠ "" → value x ≠ value r) := by
    intro column value hcolumn hunique
    rw [uniqueOn_append, and_iff_right hunique]
    constructor
    · intro hnew x hx hr hactive hne heq
      refine hnew ?_ x.row ((h.rows _).2 ⟨x, hx, rfl⟩) ?_ ?_
      · rw [hcolumn, indexed_row]
        exact ⟨hr, hne⟩
      · rw [hcolumn, indexed_row]
        exact ⟨hactive, heq ▸ hne⟩
      · rw [hcolumn, hcolumn, heq]
    · intro hall hr _ hx hxi heq
      obtain ⟨x, hhas, rfl⟩ := (h.rows _).1 hx
      rw [hcolumn, indexed_row] at hr hxi
      rw [hcolumn, hcolumn] at heq
      have hsome := nullable_eq_some.2 ⟨hxi.2, rfl⟩
      rw [heq] at hsome
      exact hall x hhas hr.1 hxi.1 hr.2 (nullable_eq_some.1 hsome).2.symm
  have hcomm := hindex (fun _ => rfl) hvalid.commitment
  have hnat := hindex (fun _ => rfl) hvalid.nationalID
  have hpass := hindex (fun _ => rfl) hvalid.passport
  constructor
  · rintro ⟨hid, hcomm', hnat', hpass'⟩ x hx (heq | hshares)
    · exact hid.ne_of_append x.row ((h.rows _).2 ⟨x, hx, rfl⟩) heq.symm
    · obtain ⟨hr, hactive, ⟨hne, heq⟩ | ⟨hne, heq⟩ | ⟨hne, heq⟩⟩ := sharesKey_iff.1 hshares
      · exact hcomm.1 hcomm' x hx hr hactive hne heq
      · exact hnat.1 hnat' x hx hr hactive hne heq
      · exact hpass.1 hpass' x hx hr hactive hne heq
  · intro hall
    refine ⟨hvalid.credentialID.append_new fun _ hx heq => ?_,
      hcomm.2 fun x hx hr hactive hne heq => ?_, hnat.2 fun x hx hr hactive hne heq => ?_,
      hpass.2 fun x hx hr hactive hne heq => ?_⟩
    · obtain ⟨x, hhas, rfl⟩ := (h.rows _).1 hx
      exact hall x hhas (.inl heq.symm)
    · exact hall x hx (.inr (sharesKey_iff.2 ⟨hr, hactive, .inl ⟨hne, heq⟩⟩))
    · exact hall x hx (.inr (sharesKey_iff.2 ⟨hr, hactive, .inr (.inl ⟨hne, heq⟩)⟩))
    · exact hall x hx (.inr (sharesKey_iff.2 ⟨hr, hactive, .inr (.inr ⟨hne, heq⟩)⟩))

/-- A row of the table that is looked for, among the records. -/
theorem Simulates.any_rows {p : BindingRow → Bool} {q : Record → Prop}
    (hpq : ∀ r : Record, p r.row = true ↔ q r) :
    ss.postgres.rows.any p = true ↔ ∃ r, ss.memory.Has r ∧ q r := by
  rw [List.any_eq_true]
  constructor
  · rintro ⟨x, hx, hp⟩
    obtain ⟨r, hr, rfl⟩ := (h.rows x).1 hx
    exact ⟨r, hr, (hpq r).1 hp⟩
  · rintro ⟨r, hr, hq⟩
    exact ⟨r.row, (h.rows _).2 ⟨r, hr, rfl⟩, (hpq r).2 hq⟩

/-- A lookup in memory answers like the query that finds the same records. -/
theorem Simulates.unlessExists {p : BindingRow → Bool} {q : Record → Prop} {e : VcError}
    {reply : Except VcError Unit} (hpq : ∀ r : Record, p r.row = true ↔ q r)
    (hreply : reply = .ok () ∨ reply = .error e)
    (hok : reply = .ok () ↔ ∀ r, ss.memory.Has r → ¬ q r) :
    refusing reply = ss.postgres.unlessExists p e := by
  have hany := h.any_rows hpq
  unfold PostgresStore.unlessExists
  rcases hreply with rfl | rfl
  · rw [if_neg]
    · rfl
    · intro hexists
      obtain ⟨r, hr, hq⟩ := hany.1 hexists
      exact hok.1 rfl r hr hq
  · rw [if_pos]
    · rfl
    · rw [hany]
      by_contra hnone
      rw [not_exists] at hnone
      cases hok.2 fun r hr hq => hnone r ⟨hr, hq⟩

theorem Simulates.checkDuplicate (c : String) :
    refusing (ss.memory.checkDuplicate c) = ss.postgres.checkDuplicate c ↔ isText c := by
  have hmemory := h.sound.consistent.checkDuplicate c
  unfold PostgresStore.checkDuplicate
  by_cases hempty : c = ""
  · subst hempty
    rw [if_pos rfl, iff_true_right isText_empty]
    have hok : ss.memory.checkDuplicate "" = .ok () := hmemory.2 fun r _ =>
      ⟨fun hk => (Record.key_eq_some.1 hk).2.1 (Record.key_eq_some.1 hk).2.2,
        fun hk => (Record.key_eq_some.1 hk).2.1 (Record.key_eq_some.1 hk).2.2⟩
    rw [hok]
    rfl
  rw [if_neg hempty]
  split
  · next hbad => exact iff_of_false (badText_ne _) hbad
  · next htext =>
    refine iff_of_true (h.unlessExists (fun r => ?_) (ss.memory.checkDuplicate_eq c)
      (hmemory.trans (forall₂_congr fun r _ => not_or.symm))) (not_not.1 htext)
    rw [Bool.and_eq_true, Bool.or_eq_true, beq_iff_eq, beq_iff_eq, beq_iff_eq,
      Record.nationalIDKey, Record.commKey, key_eq_some_iff_row, key_eq_some_iff_row, ← and_or_left]
    exact and_congr_right fun _ => or_comm

theorem Simulates.checkDuplicateAny (cs : List String) :
    refusing (ss.memory.checkDuplicateAny cs) = ss.postgres.checkDuplicateAny cs ↔
      ∀ c ∈ cs, isText c := by
  obtain ⟨hreply, hmemory⟩ := ss.memory.checkDuplicateAny_eq cs
  have hfilter : ∀ c, c ∈ cs.filter (· != "") ↔ c ∈ cs ∧ c ≠ "" := fun c => by
    rw [List.mem_filter, bne_iff_ne]
  have htexts : (cs.filter (· != "")).all isText = true ↔ ∀ c ∈ cs, isText c := by
    rw [List.all_eq_true]
    constructor
    · intro hall c hc
      by_cases hempty : c = ""
      · rw [hempty]
        exact isText_empty
      · exact hall c ((hfilter c).2 ⟨hc, hempty⟩)
    · exact fun hall c hc => hall c ((hfilter c).1 hc).1
  unfold PostgresStore.checkDuplicateAny
  dsimp only
  split
  · next hnone =>
    rw [List.isEmpty_iff] at hnone
    rw [← htexts, hnone, List.all_nil, iff_true_right rfl]
    have hok : ss.memory.checkDuplicateAny cs = .ok () := hmemory.2 fun c hc hne => by
      have hmem := (hfilter c).2 ⟨hc, hne⟩
      rw [hnone] at hmem
      exact absurd hmem List.not_mem_nil
    rw [hok]
    rfl
  split
  · next hbad => exact iff_of_false (badText_ne _) (htexts.not.1 hbad)
  · next hall =>
    refine iff_of_true (h.unlessExists
      (q := fun r => ∃ c ∈ cs, c ≠ "" ∧ (r.nationalIDKey = some c ∨ r.commKey = some c))
      (fun r => ?_) hreply ?_) (htexts.1 (not_not.1 hall))
    · rw [Bool.and_eq_true, Bool.or_eq_true, beq_iff_eq, Option.any_eq_true, Option.any_eq_true]
      simp only [List.contains_iff_mem, hfilter, Record.nationalIDKey, Record.commKey,
        key_eq_some_iff_row]
      constructor
      · rintro ⟨hactive, ⟨c, hc, hmem, hne⟩ | ⟨c, hc, hmem, hne⟩⟩
        · exact ⟨c, hmem, hne, .inr ⟨hactive, hc⟩⟩
        · exact ⟨c, hmem, hne, .inl ⟨hactive, hc⟩⟩
      · rintro ⟨c, hmem, hne, ⟨hactive, hc⟩ | ⟨hactive, hc⟩⟩
        · exact ⟨hactive, .inr ⟨c, hc, hmem, hne⟩⟩
        · exact ⟨hactive, .inl ⟨c, hc, hmem, hne⟩⟩
    · rw [hmemory]
      constructor
      · rintro hok r hr ⟨c, hc, hne, hk⟩
        have hfree := (h.sound.consistent.checkDuplicate c).1 (hok c hc hne) r hr
        exact hk.elim hfree.1 hfree.2
      · intro hnone c hc hne
        refine (h.sound.consistent.checkDuplicate c).2 fun r hr => ⟨fun hk => ?_, fun hk => ?_⟩
        · exact hnone r hr ⟨c, hc, hne, .inl hk⟩
        · exact hnone r hr ⟨c, hc, hne, .inr hk⟩

theorem Simulates.checkDuplicatePersonhoodBinding (n p : String) :
    refusing (ss.memory.checkDuplicatePersonhoodBinding n p) =
      ss.postgres.checkDuplicatePersonhoodBinding n p ↔ isText n ∧ isText p := by
  have hmemory := h.sound.consistent.checkDuplicatePersonhoodBinding n p
  have hreply : ss.memory.checkDuplicatePersonhoodBinding n p = .ok () ∨
      ss.memory.checkDuplicatePersonhoodBinding n p = .error .duplicatePersonhoodBinding := by
    unfold Store.checkDuplicatePersonhoodBinding
    dsimp only
    generalize ss.memory.activeAt _ = found
    cases found with
    | true => exact .inr rfl
    | false => exact .inl rfl
  unfold PostgresStore.checkDuplicatePersonhoodBinding
  split
  · next hbad => exact iff_of_false (badText_ne _) (not_and_or.2 hbad)
  · next htext =>
    rw [not_or, not_not, not_not] at htext
    refine iff_of_true (h.unlessExists (fun r => ?_) hreply
      (hmemory.trans (forall₂_congr fun r _ => not_or.symm))) htext
    rw [Bool.and_eq_true, Bool.or_eq_true, Bool.and_eq_true, Bool.and_eq_true, beq_iff_eq,
      beq_iff_eq, beq_iff_eq, bne_iff_ne, bne_iff_ne, Record.nationalIDKey,
      Record.passportNumberKey, key_eq_some_iff_row, key_eq_some_iff_row, ← and_or_left]
    refine and_congr_right fun _ => or_congr (and_iff_left_of_imp ?_) (and_iff_left_of_imp ?_)
    · intro hk
      obtain ⟨hne, rfl⟩ := nullable_eq_some.1 hk
      exact hne
    · intro hk
      obtain ⟨hne, rfl⟩ := nullable_eq_some.1 hk
      exact hne

/-- The record with an id, in the store and in the table. -/
theorem Simulates.find_row (id : String) :
    ss.postgres.find (fun x => x.credentialID == id) =
      (ss.memory.lookup id).map fun found => found.2.row := by
  have hconsistent := h.sound.consistent
  cases hlookup : ss.memory.lookup id with
  | none =>
    rw [Option.map_none, Table.find_eq_none]
    intro x hx
    obtain ⟨r, ⟨p, hr⟩, rfl⟩ := (h.rows x).1 hx
    rw [beq_eq_false_iff_ne]
    intro heq
    rw [(Store.lookup_eq_some hconsistent).2 ⟨hr, heq⟩] at hlookup
    cases hlookup
  | some found =>
    obtain ⟨p, r⟩ := found
    obtain ⟨hr, hid⟩ := (Store.lookup_eq_some hconsistent).1 hlookup
    rw [Option.map_some, Table.find_eq_some_iff]
    · exact ⟨(h.rows _).2 ⟨r, ⟨p, hr⟩, rfl⟩, beq_iff_eq.2 hid⟩
    · intro a ha b hb hida hidb
      exact ss.postgres.valid.credentialID.eq ha hb rfl rfl
        ((beq_iff_eq.1 hida).trans (beq_iff_eq.1 hidb).symm)

theorem Simulates.isText_of_lookup {id : String} {found : Addr × Record}
    (hlookup : ss.memory.lookup id = some found) : isText id := by
  obtain ⟨hr, rfl⟩ := (Store.lookup_eq_some h.sound.consistent).1 hlookup
  exact h.texts _ ⟨_, hr⟩ _ List.mem_cons_self

theorem Simulates.status (id : String) : ss.memory.status id = ss.postgres.status id := by
  have hfind := h.find_row id
  have hstatus : ss.memory.status id = (ss.memory.lookup id).map fun found => found.2.status := by
    rw [Store.status, Store.lookup]
    cases ss.memory.byID id with
    | none => rfl
    | some p => cases hp : ss.memory.heap[p]? <;> simp [hp]
  rw [hstatus, PostgresStore.status, hfind]
  split
  · next hbad =>
    cases hlookup : ss.memory.lookup id with
    | none => rfl
    | some found => exact absurd (h.isText_of_lookup hlookup) hbad
  · rw [Option.map_map]
    rfl

theorem Simulates.personhoodBinding (n : String) :
    ss.memory.personhoodBindingByNationalIDHash n =
      ss.postgres.personhoodBindingByNationalIDHash n ↔
        ∀ r, ss.memory.Has r → r.nationalIDKey = some n → r.passportNumberHash ≠ "" := by
  have hindex := h.sound.consistent.byNationalIDHash
  unfold Store.personhoodBindingByNationalIDHash PostgresStore.personhoodBindingByNationalIDHash
  cases hp : ss.memory.byNationalIDHash n with
  | none =>
    have hnone : ∀ r, ss.memory.Has r → r.nationalIDKey ≠ some n := by
      rintro r ⟨p, hr⟩ hk
      rw [(hindex n p).2 ⟨r, hr, hk⟩] at hp
      cases hp
    refine iff_of_true ?_ fun r hr hk => absurd hk (hnone r hr)
    have hfind : ss.postgres.find (fun x => x.nationalIDHash == some n && x.status == .active) =
        none := by
      rw [Table.find_eq_none]
      intro x hx
      obtain ⟨r, hr, rfl⟩ := (h.rows x).1 hx
      by_contra hrow
      rw [Bool.not_eq_false, Bool.and_eq_true, beq_iff_eq, beq_iff_eq] at hrow
      exact hnone r hr (key_eq_some_iff_row.2 ⟨hrow.2, hrow.1⟩)
    rw [hfind]
    split <;> rfl
  | some p =>
    obtain ⟨r, hr, hk⟩ := (hindex n p).1 hp
    obtain ⟨hactive, hne, rfl⟩ := Record.key_eq_some.1 hk
    have htext : isText r.nationalIDHash := h.texts r ⟨p, hr⟩ _ (by simp)
    have hfind : ss.postgres.find (fun x => x.nationalIDHash == some r.nationalIDHash &&
        x.status == .active) = some r.row := by
      rw [Table.find_eq_some_iff]
      · refine ⟨(h.rows _).2 ⟨r, ⟨p, hr⟩, rfl⟩, ?_⟩
        rw [Bool.and_eq_true, beq_iff_eq, beq_iff_eq]
        exact ⟨nullable_eq_some.2 ⟨hne, rfl⟩, hactive⟩
      · intro a ha b hb hpa hpb
        rw [Bool.and_eq_true, beq_iff_eq, beq_iff_eq] at hpa hpb
        have hindexed : ∀ {x : BindingRow}, x.nationalIDHash = some r.nationalIDHash →
            x.status = .active → x.indexed x.nationalIDHash = true := by
          intro x hx hxa
          rw [BindingRow.indexed, hxa, hx, Option.any_some, beq_self_eq_true, Bool.true_and]
          exact bne_iff_ne.2 hne
        exact ss.postgres.valid.nationalID.eq ha hb (hindexed hpa.1 hpa.2)
          (hindexed hpb.1 hpb.2) (hpa.1.trans hpb.1.symm)
    -- the index has one record for the number, so the condition is about that one
    have honly : (∀ r', ss.memory.Has r' → r'.nationalIDKey = some r.nationalIDHash →
        r'.passportNumberHash ≠ "") ↔ r.passportNumberHash ≠ "" := by
      refine ⟨fun hall => hall r ⟨p, hr⟩ hk, fun hne r' hr' hk' => ?_⟩
      obtain ⟨q, hq⟩ := hr'
      have hqp := hindex.unique hq hr hk' hk
      subst hqp
      rwa [Store.Live.eq hr hq]
    rw [honly, Option.bind_some, hr.1, Option.map_some, if_neg (by simp [hne, htext]), hfind]
    have hnat : r.row.nationalIDHash = some r.nationalIDHash := nullable_eq_some.2 ⟨hne, rfl⟩
    have hpass : r.row.passportNumberHash = nullable r.passportNumberHash := rfl
    simp only [Option.bind_eq_bind, Option.bind_some, hnat, hpass]
    unfold nullable
    split
    · next hempty => exact iff_of_false (by intro heq; cases heq) (not_not.2 hempty)
    · next hsome => exact iff_of_true rfl hsome

theorem Simulates.add (r : Record) :
    refusing (ss.memory.add r true).1 = (ss.postgres.add r).1 ↔
      r.AreTexts ∧ ∀ x ∈ ss.memory.records, ¬ r.Clash x := by
  have hok : (ss.memory.add r true).1 = .ok () := by
    unfold Store.add Store.saveLocked
    split
    · rfl
    · next hsave =>
      split at hsave
      · cases hsave
      · cases hsave
  have hindexes := h.indexes_append r
  rw [hok, PostgresStore.add]
  simp only [Store.mem_records]
  split
  · next hbad => exact iff_of_false (badText_ne (.ok ())) fun hc => hbad hc.1
  · next htexts =>
    rw [and_iff_right (not_not.1 htexts), ← hindexes,
      ← Table.commit_isSome (C := PersonhoodIndexes)]
    unfold Table.insert
    cases Table.commit (C := PersonhoodIndexes) (ss.postgres.rows ++ [r.row]) with
    | none => exact iff_of_false (by intro heq; cases heq) (by intro heq; cases heq)
    | some t => exact iff_of_true rfl rfl

theorem Simulates.revoke (id : String) :
    refusing (ss.memory.revoke id true).1 = (ss.postgres.revoke id).1 ↔ isText id := by
  have hfind := h.find_row id
  unfold PostgresStore.revoke
  split
  · next hbad => exact iff_of_false (badText_ne _) hbad
  · next htext =>
    refine iff_of_true ?_ (not_not.1 htext)
    unfold Store.revoke
    split
    · next hnone =>
      rw [hnone, Option.map_none, Table.find_eq_none] at hfind
      rw [if_neg]
      · rfl
      · intro hany
        obtain ⟨x, hx, hid⟩ := List.any_eq_true.1 hany
        rw [hfind x hx] at hid
        cases hid
    · next p r hlookup =>
      rw [hlookup, Option.map_some] at hfind
      rw [if_pos (List.any_eq_true.2 ⟨_, Table.mem_of_find hfind, Table.prop_of_find hfind⟩)]
      split
      · rfl
      · unfold Store.saveLocked
        split
        · rfl
        · next hsave =>
          split at hsave
          · cases hsave
          · cases hsave

/-- **The stores answer a call alike exactly when it conforms.** -/
theorem sameReply_iff (call : CredentialCall) : SameReply ss call ↔ Conforms ss.memory call := by
  cases call with
  | add r => exact of_injective.trans (h.add r)
  | revoke id => exact of_injective.trans (h.revoke id)
  | status id => exact iff_of_true (congrArg _ (h.status id)) trivial
  | checkDuplicate c => exact of_injective.trans (h.checkDuplicate c)
  | checkDuplicateAny cs => exact of_injective.trans (h.checkDuplicateAny cs)
  | checkDuplicatePersonhoodBinding n p =>
    exact of_injective.trans (h.checkDuplicatePersonhoodBinding n p)
  | personhoodBindingByNationalIDHash n =>
    refine (Iff.intro CredentialReply.binding.inj (congrArg _)).trans
      ((h.personhoodBinding n).trans ?_)
    simp only [Conforms, Store.mem_records]

/-- A call that conforms leaves a row for each record. -/
theorem Simulates.callStores {call : CredentialCall} (hok : Conforms ss.memory call) :
    Simulates (callStores ss call) := by
  cases call with
  | status | checkDuplicate | checkDuplicateAny | checkDuplicatePersonhoodBinding
  | personhoodBindingByNationalIDHash => exact h
  | add r =>
    have hreply := (h.add r).2 hok
    obtain ⟨htexts, hclash⟩ := hok
    have hfree : ∀ x, ss.memory.Has x → ¬ r.Clash x := fun x hx =>
      hclash x (Store.mem_records.2 hx)
    obtain ⟨hsound, hhas⟩ := h.sound.add (fun p x hx => hfree x ⟨p, hx⟩) true
    -- no record shares a key, so neither the indexes in memory nor those of the table refuse it
    have hvalid := (h.indexes_append r).2 hfree
    have hcommit : ss.postgres.insert r.row = some ⟨_, hvalid⟩ := dif_pos hvalid
    have hpostgres : ss.postgres.add r = (.ok (), ⟨_, hvalid⟩) := by
      rw [PostgresStore.add, if_neg (not_not.2 htexts), hcommit]
    have hok : (ss.memory.add r true).1 = .ok () := by
      rw [hpostgres] at hreply
      cases hadd : (ss.memory.add r true).1 with
      | ok => rfl
      | error e => rw [hadd] at hreply; cases hreply
    simp only [hok, true_and] at hhas
    show Simulates ⟨(ss.memory.add r true).2, (ss.postgres.add r).2⟩
    rw [hpostgres]
    refine ⟨hsound, fun x => ?_, fun x hx => ?_⟩
    · simp only [hhas, or_and_right, exists_or, exists_eq_left, ← h.rows]
      rw [List.mem_append, List.mem_singleton, eq_comm (a := r.row)]
    · rcases (hhas x).1 hx with hx | rfl
      · exact h.texts x hx
      · exact htexts
  | revoke id =>
    have hreply := (h.revoke id).2 hok
    obtain ⟨hsound, hhas⟩ := h.sound.revoke id true
    show Simulates ⟨(ss.memory.revoke id true).2, (ss.postgres.revoke id).2⟩
    have hcases : (ss.postgres.revoke id = (.ok (), ss.postgres.retire id)) ∨
        ss.postgres.revoke id = (.error (.refused .credentialNotFound), ss.postgres) := by
      rw [PostgresStore.revoke, if_neg (not_not.2 (show isText id = true from hok))]
      split
      · exact .inl rfl
      · exact .inr rfl
    -- the answers are the same, so either both have retired the record or neither
    rcases hcases with hpostgres | hpostgres
    · rw [hpostgres] at hreply
      have hdone : (ss.memory.revoke id true).1 = .ok () := by
        cases hrevoke : (ss.memory.revoke id true).1 with
        | ok => rfl
        | error e => rw [hrevoke] at hreply; cases hreply
      simp only [hdone, and_true] at hhas
      rw [hpostgres]
      refine ⟨hsound, fun x => ?_, fun x hx => ?_⟩
      · rw [PostgresStore.retire, List.mem_map]
        constructor
        · rintro ⟨y, hy, rfl⟩
          obtain ⟨r, hr, rfl⟩ := (h.rows y).1 hy
          exact ⟨_, (hhas _).2 ⟨r, hr, rfl⟩, (retireRow_row id r).symm⟩
        · rintro ⟨y, hy, rfl⟩
          obtain ⟨r, hr, rfl⟩ := (hhas y).1 hy
          exact ⟨r.row, (h.rows _).2 ⟨r, hr, rfl⟩, retireRow_row id r⟩
      · obtain ⟨r, hr, rfl⟩ := (hhas x).1 hx
        split
        · exact h.texts r hr
        · exact h.texts r hr
    · rw [hpostgres] at hreply
      have hrefused : (ss.memory.revoke id true).1 ≠ .ok () := by
        intro hdone
        rw [hdone] at hreply
        cases hreply
      simp only [hrefused, and_false, if_false, exists_eq_right'] at hhas
      rw [hpostgres]
      refine ⟨hsound, fun x => ?_, fun x hx => h.texts x ((hhas x).1 hx)⟩
      simp only [hhas, h.rows]

end Calls

/-! ### Runs -/

/-- Two new stores; the one in memory may have a file, which does not exist yet. -/
def emptyStores (hasFile : Bool) : Stores :=
  ⟨{ file := if hasFile then some [] else none }, .empty⟩

theorem simulates_empty (hasFile : Bool) : Simulates (emptyStores hasFile) := by
  obtain ⟨hconsistent, hnone⟩ := Store.consistent_empty (if hasFile then some [] else none)
  refine ⟨⟨hconsistent, ?_⟩, fun x => ?_, fun r hr => absurd hr (hnone r)⟩
  · intro file hfile
    cases hasFile with
    | false => cases hfile
    | true =>
      cases hfile
      exact ⟨fun r => iff_of_false List.not_mem_nil (hnone r), List.Pairwise.nil⟩
  · exact iff_of_false List.not_mem_nil fun ⟨r, hr, _⟩ => hnone r hr

/-- **In a run of calls the stores answer alike exactly when each call conforms.**  The table has
a row for each record in memory and for nothing else; a call keeps this as long as the answers are
the same, and then they are the same exactly when it conforms. -/
theorem storesAgree_iff (hasFile : Bool) (calls : List CredentialCall) :
    (∀ before call after, calls = before ++ call :: after →
      SameReply (exec callStores (emptyStores hasFile) before) call) ↔
    Along callStores (fun ss call => Conforms ss.memory call) (emptyStores hasFile) calls := by
  rw [← along_iff_split]
  refine along_congr_of_invariant (I := Simulates) (fun ss call h hsame => ?_)
    (fun ss call h => sameReply_iff h call) (simulates_empty hasFile)
  exact h.callStores ((sameReply_iff h call).1 hsame)

/-! ### A binding without a passport number -/

def toyNationalRecord (credentialID nationalIDHash : String) : Record :=
  ⟨credentialID, "did:key:1", "", nationalIDHash, "", .active⟩

/-- The binding is read in memory and not over PostgreSQL; a second binding of the person is
recorded in memory and refused over PostgreSQL. -/
theorem replies_differ :
    ¬ (∀ before call after,
        [.add (toyNationalRecord "a" "n"), .personhoodBindingByNationalIDHash "n"] =
          before ++ call :: after → SameReply (exec callStores (emptyStores false) before) call) ∧
      ¬ ∀ before call after,
        [.add (toyNationalRecord "a" "n"), .add (toyNationalRecord "b" "n")] =
          before ++ call :: after →
            SameReply (exec callStores (emptyStores false) before) call := by
  refine ⟨fun hall => ?_, fun hall => ?_⟩
  · exact absurd (hall [.add (toyNationalRecord "a" "n")] _ [] rfl) (by decide +kernel)
  · exact absurd (hall [.add (toyNationalRecord "a" "n")] _ [] rfl) (by decide +kernel)

end Ansible.Vc
