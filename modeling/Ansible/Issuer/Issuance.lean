import Ansible.Issuer.CredentialStore
import Ansible.Lib.Run
import Mathlib.Data.List.Infix

/-!
# Issuing credentials concurrently

A request to issue a humanity credential first looks the person up, one
commitment at a time, and then adds the record.  Every lookup and every add takes
the lock of the store by itself, so that the steps of several requests, of
revocations and of restarts interleave in any order.

## Main definitions

* `Request`, `Pc` — the three kinds of request, and how far one has come.
* `Issuer`, `Event`, `step` — the issuer's state and what moves it on.
* `Watched`, `watch` — a run, with what the store held when each request arrived.

## Main results

* `one_active_credential` — **in undisturbed runs every person has one active
  credential, and the indexes lead to it**.
-/

namespace Ansible.Vc

/-! ### Requests -/

/-- A record to be added, before its id is drawn. -/
structure Draft where
  holderDID : String
  commitment : String
  nationalIDHash : String
  passportNumberHash : String
  deriving DecidableEq, Repr

def Draft.record (d : Draft) (credentialID : String) : Record :=
  ⟨credentialID, d.holderDID, d.commitment, d.nationalIDHash, d.passportNumberHash, .active⟩

/-- A request to issue credentials. -/
inductive Request where
  | issue (holderDID : String) (commitments : List String)
  | issuePassport (holderDID nationalIDHash passportNumberHash : String) (ageOver18 : Bool)
  | issueMobileMoicaRP (holderDID : String) (commitments : List String)
  deriving DecidableEq, Repr

/-- The first non-empty commitment, or the empty one. -/
def primaryCommitment (commitments : List String) : String :=
  (commitments.find? (· ≠ "")).getD ""

/-- How far a request has come. -/
inductive Pc where
  /-- The commitments that are still to be looked up. -/
  | checkAny (todo : List String) (drafts : List Draft)
  /-- The lookup of a passport's hashes. -/
  | checkBinding (nationalIDHash passportNumberHash : String) (drafts : List Draft)
  /-- The credentials that are still to be signed and added. -/
  | adding (drafts : List Draft)
  | done (error : Option VcError)
  /-- The process ended before the request did. -/
  | cut
  deriving DecidableEq, Repr

/-- The credential of a request that looks up commitments. -/
def beginCommitments (holderDID : String) (commitments : List String) : Pc :=
  let primary := primaryCommitment commitments
  if primary = "" then .done (some .missingPersonhoodCommitment)
  else .checkAny commitments [⟨holderDID, primary, primary, ""⟩]

/-- What a request does first. -/
def Request.begin : Request → Pc
  | .issue holderDID commitments => beginCommitments holderDID commitments
  | .issueMobileMoicaRP holderDID commitments => beginCommitments holderDID commitments
  | .issuePassport holderDID nationalIDHash passportNumberHash ageOver18 =>
      if nationalIDHash = "" ∧ passportNumberHash = "" then
        .done (some .missingPersonhoodCommitment)
      else
        .checkBinding nationalIDHash passportNumberHash
          -- the humanity credential, then nationality, then the age predicate
          (⟨holderDID, "", nationalIDHash, passportNumberHash⟩ :: ⟨holderDID, "", "", ""⟩ ::
            if ageOver18 then [⟨holderDID, "", "", ""⟩] else [])

/-- What a step takes from outside: the random suffix of the credential id, whether the
proof is signed, and whether the file of the store can be written. -/
structure Env where
  credHex : String
  signs : Bool := true
  writes : Bool := true
  deriving DecidableEq, Repr

def credentialID (issuerURL credHex : String) : String := issuerURL ++ "/vc/" ++ credHex

/-- One step of a request: a lookup, or the signing and adding of one credential. -/
def Pc.next (issuerURL : String) (env : Env) (s : Store) : Pc → Pc × Store
  | .checkAny [] drafts => (.adding drafts, s)
  | .checkAny (c :: todo) drafts =>
      if c = "" then (.checkAny todo drafts, s)
      else match s.checkDuplicate c with
        | .ok () => (.checkAny todo drafts, s)
        | .error e => (.done (some e), s)
  | .checkBinding nationalIDHash passportNumberHash drafts =>
      match s.checkDuplicatePersonhoodBinding nationalIDHash passportNumberHash with
      | .ok () => (.adding drafts, s)
      | .error e => (.done (some e), s)
  | .adding [] => (.done none, s)
  | .adding (d :: drafts) =>
      if env.signs then
        match s.add (d.record (credentialID issuerURL env.credHex)) env.writes with
        | (.ok (), s') => (.adding drafts, s')
        | (.error e, s') => (.done (some e), s')
      else (.done (some .sign), s)
  | .done error => (.done error, s)
  | .cut => (.cut, s)

/-! ### The issuer -/

/-- The store, and the requests in the order in which they arrived. -/
structure Issuer where
  store : Store
  requests : List Pc := []

/-- What moves the issuer on. -/
inductive Event where
  | request (r : Request)
  /-- The next step of the request with the number `q`. -/
  | run (q : ℕ) (env : Env)
  | revoke (credentialID : String) (writes : Bool)
  /-- The process ends, with the requests it serves, and starts from the file. -/
  | restart
  deriving DecidableEq, Repr

/-- What a restart leaves of a request. -/
def Pc.cutOff : Pc → Pc
  | .done error => .done error
  | _ => .cut

/-- One step of the issuer. -/
def step (issuerURL : String) (s : Issuer) : Event → Issuer
  | .request r => { s with requests := s.requests ++ [r.begin] }
  | .run q env =>
      match s.requests[q]? with
      | none => s
      | some pc =>
          let (pc', store) := pc.next issuerURL env s.store
          { store, requests := s.requests.set q pc' }
  | .revoke id writes => { s with store := (s.store.revoke id writes).2 }
  | .restart =>
      match s.store.file with
      | none => { store := newStore, requests := s.requests.map Pc.cutOff }
      | some file =>
          match newFileStore (some file) with
          | none => s
          | some store => { store, requests := s.requests.map Pc.cutOff }

/-! ### Runs, watched -/

/-- A run of the issuer, with the ids of the credentials that the store held when each
request arrived. -/
structure Watched where
  issuer : Issuer
  known : List (List String) := []

def Store.ids (s : Store) : List String := s.records.map Record.credentialID

/-- One step of the issuer, watched. -/
def watch (issuerURL : String) (w : Watched) (e : Event) : Watched where
  issuer := step issuerURL w.issuer e
  known := match e with
    | .request _ => w.known ++ [w.issuer.store.ids]
    | _ => w.known

theorem exec_watch (issuerURL : String) (w : Watched) (es : List Event) :
    (exec (watch issuerURL) w es).issuer = exec (step issuerURL) w.issuer es := by
  induction es generalizing w with
  | nil => rfl
  | cons e es ih => exact ih (watch issuerURL w e)

/-- **No other request for the same person adds its credential in between**: when a
request is about to add a record, every active credential under one of its hashes was
in the store when the request arrived; and the id drawn for the record is new. -/
def Undisturbed (issuerURL : String) (w : Watched) : Event → Prop
  | .run q env => ∀ d drafts, w.issuer.requests[q]? = some (.adding (d :: drafts)) →
      env.signs = true → ∀ r, w.issuer.store.Has r →
        r.credentialID ≠ credentialID issuerURL env.credHex ∧
        ((d.record (credentialID issuerURL env.credHex)).SharesKey r →
          r.credentialID ∈ (w.known[q]?).getD [])
  | _ => True

/-- The condition, on the records of the store. -/
def UndisturbedAdd (issuerURL : String) (w : Watched) (q : ℕ) (env : Env) (d : Draft) : Prop :=
  env.signs = true → ∀ r ∈ w.issuer.store.records,
    r.credentialID ≠ credentialID issuerURL env.credHex ∧
      ((d.record (credentialID issuerURL env.credHex)).SharesKey r →
        r.credentialID ∈ (w.known[q]?).getD [])

instance (issuerURL : String) (w : Watched) (q : ℕ) (env : Env) (d : Draft) :
    Decidable (UndisturbedAdd issuerURL w q env d) :=
  inferInstanceAs (Decidable (_ → ∀ r ∈ _, _ ∧ (_ → _)))

/-- The condition, on the request that takes a step. -/
def UndisturbedPc (issuerURL : String) (w : Watched) (q : ℕ) (env : Env) : Pc → Prop
  | .adding (d :: _) => UndisturbedAdd issuerURL w q env d
  | _ => True

instance (issuerURL : String) (w : Watched) (q : ℕ) (env : Env) :
    ∀ pc, Decidable (UndisturbedPc issuerURL w q env pc)
  | .adding (d :: _) => inferInstanceAs (Decidable (UndisturbedAdd issuerURL w q env d))
  | .adding [] => instDecidableTrue
  | .checkAny _ _ => instDecidableTrue
  | .checkBinding _ _ _ => instDecidableTrue
  | .done _ => instDecidableTrue
  | .cut => instDecidableTrue

variable {issuerURL : String} {w : Watched} {q : ℕ} {env : Env} {r : Record} {d : Draft}
  {known : List String} {s s' : Store} {pc : Pc} {drafts : List Draft}

theorem undisturbed_run :
    Undisturbed issuerURL w (.run q env) ↔
      ∀ pc ∈ w.issuer.requests[q]?, UndisturbedPc issuerURL w q env pc := by
  constructor
  · intro h pc hpc
    unfold UndisturbedPc
    split
    · intro hsigns r hr
      exact h _ _ hpc hsigns r (Store.mem_records.1 hr)
    · trivial
  · intro h d drafts hpc hsigns r hr
    exact h _ hpc hsigns r (Store.mem_records.2 hr)

instance (issuerURL : String) (w : Watched) : ∀ e, Decidable (Undisturbed issuerURL w e)
  | .request _ => instDecidableTrue
  | .revoke _ _ => instDecidableTrue
  | .restart => instDecidableTrue
  | .run _ _ => decidable_of_iff' _ undisturbed_run

/-! ### What a request knows -/

theorem Record.SharesKey.active {r' : Record} (h : r.SharesKey r') : r'.status = .active := by
  rcases h with ⟨h, ⟨-, hk⟩ | ⟨-, hk⟩ | ⟨-, hk⟩⟩
  · exact Store.active_of_key hk
  · exact Store.active_of_key hk
  · exact Store.active_of_key hk

def Draft.SharesKey (d : Draft) (r : Record) : Prop := (d.record "").SharesKey r

theorem Draft.not_sharesKey (hc : d.commitment = "") (hn : d.nationalIDHash = "")
    (hp : d.passportNumberHash = "") (r : Record) : ¬ d.SharesKey r := by
  rintro ⟨h, ⟨hk, -⟩ | ⟨hk, -⟩ | ⟨hk, -⟩⟩
  · exact (Record.key_eq_some.1 hk).2.1 hc
  · exact (Record.key_eq_some.1 hk).2.1 hn
  · exact (Record.key_eq_some.1 hk).2.1 hp

/-- A draft under one commitment shares it with whatever record it shares a key with. -/
theorem Draft.SharesKey.commitment (hc : d.commitment = d.nationalIDHash)
    (hp : d.passportNumberHash = "") (h : d.SharesKey r) : d.nationalIDHash ≠ "" ∧
      (r.commKey = some d.nationalIDHash ∨ r.nationalIDKey = some d.nationalIDHash) := by
  rcases h with ⟨h, ⟨hk, hk'⟩ | ⟨hk, hk'⟩ | ⟨hk, hk'⟩⟩
  · obtain ⟨-, hne, rfl⟩ := Record.key_eq_some.1 hk
    rw [Draft.record, hc] at hne hk'
    exact ⟨hne, .inl hk'⟩
  · obtain ⟨-, hne, rfl⟩ := Record.key_eq_some.1 hk
    exact ⟨hne, .inr hk'⟩
  · exact absurd hp (Record.key_eq_some.1 hk).2.1

theorem Draft.SharesKey.binding (hc : d.commitment = "") (h : d.SharesKey r) :
    r.nationalIDKey = some d.nationalIDHash ∨
      r.passportNumberKey = some d.passportNumberHash := by
  rcases h with ⟨h, ⟨hk, hk'⟩ | ⟨hk, hk'⟩ | ⟨hk, hk'⟩⟩
  · exact absurd hc (Record.key_eq_some.1 hk).2.1
  · obtain ⟨-, -, rfl⟩ := Record.key_eq_some.1 hk
    exact .inl hk'
  · obtain ⟨-, -, rfl⟩ := Record.key_eq_some.1 hk
    exact .inr hk'

/-- A request that is served: neither done nor cut off. -/
def Pc.served : Pc → Bool
  | .done _ | .cut => false
  | _ => true

/-- What the lookups so far have shown of the credentials that the store held when the
request arrived, `known`: one that shares a key with a draft is still to be looked up. -/
def Pc.Expects (known : List String) (s : Store) : Pc → Prop
  | .checkAny todo drafts => ∃ d, drafts = [d] ∧ d.commitment = d.nationalIDHash ∧
      d.passportNumberHash = "" ∧
      ∀ r, s.Has r → r.credentialID ∈ known → d.SharesKey r → d.nationalIDHash ∈ todo
  | .checkBinding nationalIDHash passportNumberHash drafts => ∃ d rest, drafts = d :: rest ∧
      d.commitment = "" ∧ d.nationalIDHash = nationalIDHash ∧
      d.passportNumberHash = passportNumberHash ∧ ∀ d' ∈ rest, ∀ r, ¬ d'.SharesKey r
  | .adding drafts => ∀ d ∈ drafts, ∀ r, s.Has r → r.credentialID ∈ known → ¬ d.SharesKey r
  | _ => True

theorem primaryCommitment_mem {commitments : List String}
    (h : primaryCommitment commitments ≠ "") : primaryCommitment commitments ∈ commitments := by
  unfold primaryCommitment at h ⊢
  cases hf : commitments.find? (· ≠ "") with
  | none =>
    rw [hf] at h
    exact absurd rfl h
  | some c => exact List.mem_of_find?_eq_some hf

theorem expects_begin (known : List String) (s : Store) (r : Request) :
    r.begin.Expects known s := by
  have hcomm : ∀ holderDID commitments,
      (beginCommitments holderDID commitments).Expects known s := by
    intro holderDID commitments
    unfold beginCommitments
    dsimp only
    split
    · trivial
    · rename_i hne
      exact ⟨_, rfl, rfl, rfl, fun _ _ _ _ => primaryCommitment_mem hne⟩
  cases r with
  | issue holderDID commitments => exact hcomm holderDID commitments
  | issueMobileMoicaRP holderDID commitments => exact hcomm holderDID commitments
  | issuePassport holderDID nat pass ageOver18 =>
    simp only [Request.begin]
    split
    · trivial
    · refine ⟨_, _, rfl, rfl, rfl, rfl, ?_⟩
      intro d' hd' r
      have hbare : d' = ⟨holderDID, "", "", ""⟩ := by
        cases ageOver18 <;> simpa using hd'
      subst hbare
      exact Draft.not_sharesKey rfl rfl rfl r

/-- What a step may do to the records: those it makes active are new, and it forgets none. -/
structure Succeeds (s s' : Store) : Prop where
  active : ∀ r', s'.Has r' → r'.status = .active →
    s.Has r' ∨ ∀ r, s.Has r → r.credentialID ≠ r'.credentialID
  kept : ∀ r, s.Has r → ∃ r', s'.Has r' ∧ r'.credentialID = r.credentialID

theorem Succeeds.refl (s : Store) : Succeeds s s :=
  ⟨fun _ hr' _ => .inl hr', fun r hr => ⟨r, hr, rfl⟩⟩

theorem Pc.Expects.succeeds (h : pc.Expects known s) (hss : Succeeds s s')
    (hknown : ∀ id ∈ known, ∃ r, s.Has r ∧ r.credentialID = id) : pc.Expects known s' := by
  -- a known record that is active after the step was there before it
  have hold : ∀ d : Draft, ∀ r', s'.Has r' → r'.credentialID ∈ known → d.SharesKey r' →
      s.Has r' := by
    intro d r' hr' hid hkey
    rcases hss.active r' hr' hkey.active with hr | hnew
    · exact hr
    · obtain ⟨r, hr, heq⟩ := hknown _ hid
      exact absurd heq (hnew r hr)
  cases pc with
  | checkAny todo drafts =>
    obtain ⟨d, hd, hc, hp, htodo⟩ := h
    exact ⟨d, hd, hc, hp, fun r hr hid hkey => htodo r (hold d r hr hid hkey) hid hkey⟩
  | checkBinding nat pass drafts => exact h
  | adding drafts =>
    exact fun d hd r hr hid hkey => h d hd r (hold d r hr hid hkey) hid hkey
  | done error => trivial
  | cut => trivial

/-! ### The invariant -/

/-- Between the steps of a run: the indexes are in step, and every request that is served
knows what its lookups have shown. -/
structure Watched.Sound (w : Watched) : Prop where
  store : w.issuer.store.Sound
  length : w.known.length = w.issuer.requests.length
  known : ∀ (q : ℕ) (pc : Pc), w.issuer.requests[q]? = some pc → pc.served = true →
    ∀ id ∈ (w.known[q]?).getD [], ∃ r, w.issuer.store.Has r ∧ r.credentialID = id
  expects : ∀ (q : ℕ) (pc : Pc), w.issuer.requests[q]? = some pc →
    pc.Expects ((w.known[q]?).getD []) w.issuer.store

theorem Watched.Sound.succeeds (hw : w.Sound) (hs' : s'.Sound) (hss : Succeeds w.issuer.store s') :
    ({ w with issuer := { w.issuer with store := s' } } : Watched).Sound where
  store := hs'
  length := hw.length
  known := by
    intro q pc hpc hserved id hid
    obtain ⟨r, hr, rfl⟩ := hw.known q pc hpc hserved id hid
    exact hss.kept r hr
  expects := by
    intro q pc hpc
    by_cases hserved : pc.served = true
    · exact (hw.expects q pc hpc).succeeds hss (hw.known q pc hpc hserved)
    · cases pc with
      | done error => trivial
      | cut => trivial
      | checkAny todo drafts => exact absurd rfl hserved
      | checkBinding nat pass drafts => exact absurd rfl hserved
      | adding drafts => exact absurd rfl hserved

/-- A request moves on. -/
theorem Watched.Sound.advance (hw : w.Sound) {pc' : Pc} (hq : w.issuer.requests[q]? = some pc)
    (hs' : s'.Sound) (hss : Succeeds w.issuer.store s')
    (hserved : pc'.served = true → pc.served = true)
    (hexp : pc'.Expects ((w.known[q]?).getD []) s') :
    ({ w with issuer := { store := s', requests := w.issuer.requests.set q pc' } } :
      Watched).Sound where
  store := hs'
  length := by simpa using hw.length
  known := by
    intro q' pc'' hpc hser
    by_cases hqq : q' = q
    · subst hqq
      rw [List.getElem?_set_self (List.getElem?_eq_some_iff.1 hq).1] at hpc
      cases hpc
      exact (hw.succeeds hs' hss).known q' pc hq (hserved hser)
    · rw [List.getElem?_set_ne (Ne.symm hqq)] at hpc
      exact (hw.succeeds hs' hss).known q' pc'' hpc hser
  expects := by
    intro q' pc'' hpc
    by_cases hqq : q' = q
    · subst hqq
      rw [List.getElem?_set_self (List.getElem?_eq_some_iff.1 hq).1] at hpc
      cases hpc
      exact hexp
    · rw [List.getElem?_set_ne (Ne.symm hqq)] at hpc
      exact (hw.succeeds hs' hss).expects q' pc'' hpc

/-- What a step of a request leaves: a sound store, and a request that still knows what its
lookups have shown. -/
structure Advanced (known : List String) (s : Store) (pc : Pc) (out : Pc × Store) : Prop where
  store : out.2.Sound
  succeeds : Succeeds s out.2
  served : out.1.served = true → pc.served = true
  expects : out.1.Expects known out.2

theorem Advanced.refuse (hs : s.Sound) (error : Option VcError) :
    Advanced known s pc (.done error, s) :=
  ⟨hs, .refl s, fun h => absurd h Bool.false_ne_true, trivial⟩

/-- The lookup of one commitment. -/
theorem advanced_checkAny (hs : s.Sound) {todo : List String}
    (h : (Pc.checkAny todo drafts).Expects known s) :
    Advanced known s (.checkAny todo drafts)
      ((Pc.checkAny todo drafts).next issuerURL env s) := by
  obtain ⟨d, rfl, hc, hp, htodo⟩ := h
  cases todo with
  | nil =>
    refine ⟨hs, .refl s, fun _ => rfl, ?_⟩
    intro d' hd' r hr hid hkey
    rw [List.mem_singleton] at hd'
    subst hd'
    exact List.not_mem_nil (htodo r hr hid hkey)
  | cons c todo =>
    -- what is found under another commitment is still to be looked up
    have hrest : (∀ r, s.Has r → d.SharesKey r → d.nationalIDHash ≠ c) →
        (Pc.checkAny todo [d]).Expects known s := by
      intro hne
      refine ⟨d, rfl, hc, hp, fun r hr hid hkey => ?_⟩
      rcases List.mem_cons.1 (htodo r hr hid hkey) with hcc | hmem
      · exact absurd hcc (hne r hr hkey)
      · exact hmem
    simp only [Pc.next]
    split
    · rename_i hempty
      refine ⟨hs, .refl s, fun _ => rfl, hrest fun r _ hkey => ?_⟩
      rw [hempty]
      exact (hkey.commitment hc hp).1
    · cases hdup : s.checkDuplicate c with
      | error e => exact .refuse hs _
      | ok =>
        refine ⟨hs, .refl s, fun _ => rfl, hrest fun r hr hkey => ?_⟩
        rintro rfl
        have hfree := (hs.consistent.checkDuplicate _).1 hdup r hr
        rcases (hkey.commitment hc hp).2 with hk | hk
        · exact hfree.2 hk
        · exact hfree.1 hk

/-- The lookup of a passport's hashes. -/
theorem advanced_checkBinding (hs : s.Sound) {nat pass : String}
    (h : (Pc.checkBinding nat pass drafts).Expects known s) :
    Advanced known s (.checkBinding nat pass drafts)
      ((Pc.checkBinding nat pass drafts).next issuerURL env s) := by
  obtain ⟨d, rest, rfl, hc, rfl, rfl, hbare⟩ := h
  simp only [Pc.next]
  cases hdup : s.checkDuplicatePersonhoodBinding d.nationalIDHash d.passportNumberHash with
  | error e => exact .refuse hs _
  | ok =>
    refine ⟨hs, .refl s, fun _ => rfl, ?_⟩
    intro d' hd' r hr _ hkey
    rcases List.mem_cons.1 hd' with rfl | hd'
    · have hfree := (hs.consistent.checkDuplicatePersonhoodBinding _ _).1 hdup r hr
      rcases hkey.binding hc with hk | hk
      · exact hfree.1 hk
      · exact hfree.2 hk
    · exact hbare d' hd' r hkey

/-- A draft whose hashes nobody took in between is admitted. -/
theorem Pc.Expects.admits (h : (Pc.adding (d :: drafts)).Expects known s) {id : String}
    (hfree : ∀ r, s.Has r →
      r.credentialID ≠ id ∧ ((d.record id).SharesKey r → r.credentialID ∈ known)) :
    s.Admits (d.record id) := by
  rintro q r hr (hid | hkey)
  · exact (hfree r ⟨q, hr⟩).1 hid.symm
  · exact h d List.mem_cons_self r ⟨q, hr⟩ ((hfree r ⟨q, hr⟩).2 hkey) hkey

/-- The signing and adding of one credential, when nobody came in between. -/
theorem advanced_adding (hs : s.Sound) (h : (Pc.adding drafts).Expects known s)
    (hknown : ∀ id ∈ known, ∃ r, s.Has r ∧ r.credentialID = id)
    (hfree : ∀ d rest, drafts = d :: rest → env.signs = true → ∀ r, s.Has r →
      r.credentialID ≠ credentialID issuerURL env.credHex ∧
        (d.SharesKey r → r.credentialID ∈ known)) :
    Advanced known s (.adding drafts) ((Pc.adding drafts).next issuerURL env s) := by
  cases drafts with
  | nil => exact .refuse hs _
  | cons d drafts =>
    simp only [Pc.next]
    split
    · rename_i hsigns
      have hadm := h.admits (hfree d drafts rfl hsigns)
      obtain ⟨hsound, hhas⟩ := hs.add hadm env.writes
      have hss : Succeeds s
        (s.add (d.record (credentialID issuerURL env.credHex)) env.writes).2 := by
        constructor
        · intro r' hr' _
          rcases (hhas r').1 hr' with hr | ⟨-, rfl⟩
          · exact .inl hr
          · exact .inr fun r hr => (hfree d drafts rfl hsigns r hr).1
        · intro r hr
          exact ⟨r, (hhas r).2 (.inl hr), rfl⟩
      have hrest : (Pc.adding drafts).Expects known s :=
        fun d' hd' => h d' (List.mem_cons_of_mem _ hd')
      have hafter := hrest.succeeds hss hknown
      revert hsound hss hafter
      cases s.add (d.record (credentialID issuerURL env.credHex)) env.writes with
      | mk result s' =>
        intro hsound hss hafter
        cases result with
        | ok => exact ⟨hsound, hss, fun _ => rfl, hafter⟩
        | error e => exact ⟨hsound, hss, fun h => absurd h Bool.false_ne_true, trivial⟩
    · exact .refuse hs _

/-- The step of a request that is not disturbed. -/
theorem Watched.Sound.advanced (hw : w.Sound) (he : Undisturbed issuerURL w (.run q env))
    (hq : w.issuer.requests[q]? = some pc) :
    Advanced ((w.known[q]?).getD []) w.issuer.store pc
      (pc.next issuerURL env w.issuer.store) := by
  have hexp := hw.expects q pc hq
  cases pc with
  | checkAny todo drafts => exact advanced_checkAny hw.store hexp
  | checkBinding nat pass drafts => exact advanced_checkBinding hw.store hexp
  | adding drafts =>
    refine advanced_adding hw.store hexp (hw.known q _ hq rfl) ?_
    rintro d rest rfl hsigns r hr
    exact he d rest hq hsigns r hr
  | done error => exact .refuse hw.store error
  | cut => exact ⟨hw.store, .refl _, id, trivial⟩

theorem Store.Sound.succeeds_revoke (hs : s.Sound) (id : String) (writes : Bool) :
    Succeeds s (s.revoke id writes).2 := by
  obtain ⟨-, hhas⟩ := hs.revoke id writes
  constructor
  · intro r' hr' hact
    obtain ⟨r, hr, rfl⟩ := (hhas r').1 hr'
    split at hact
    · cases hact
    · rename_i hno
      rw [if_neg hno]
      exact .inl hr
  · intro r hr
    refine ⟨_, (hhas _).2 ⟨r, hr, rfl⟩, ?_⟩
    split <;> rfl

/-- **What one undisturbed step keeps.** -/
theorem Watched.Sound.watch (hw : w.Sound) {e : Event} (he : Undisturbed issuerURL w e) :
    (watch issuerURL w e).Sound := by
  cases e with
  | request r =>
    refine ⟨hw.store, by simp [Vc.watch, step, hw.length], ?_, ?_⟩
    · intro q pc hpc hserved id hid
      simp only [Vc.watch, step] at hpc hid ⊢
      by_cases hq : q < w.issuer.requests.length
      · rw [List.getElem?_append_left hq] at hpc
        rw [List.getElem?_append_left (hw.length ▸ hq)] at hid
        exact hw.known q pc hpc hserved id hid
      · obtain ⟨hlt, -⟩ := List.getElem?_eq_some_iff.1 hpc
        rw [List.length_append, List.length_singleton] at hlt
        have hlast : q = w.known.length := by
          rw [hw.length]
          omega
        subst hlast
        rw [List.getElem?_append_right (Nat.le_refl _), Nat.sub_self] at hid
        obtain ⟨r, hr, rfl⟩ := List.mem_map.1 hid
        exact ⟨r, Store.mem_records.1 hr, rfl⟩
    · intro q pc hpc
      simp only [Vc.watch, step] at hpc ⊢
      by_cases hq : q < w.issuer.requests.length
      · rw [List.getElem?_append_left hq] at hpc
        rw [List.getElem?_append_left (hw.length ▸ hq)]
        exact hw.expects q pc hpc
      · obtain ⟨hlt, -⟩ := List.getElem?_eq_some_iff.1 hpc
        rw [List.length_append, List.length_singleton] at hlt
        have hlast : q = w.issuer.requests.length := by omega
        subst hlast
        rw [List.getElem?_append_right (Nat.le_refl _), Nat.sub_self] at hpc
        cases hpc
        exact expects_begin _ _ r
  | run q env =>
    simp only [Vc.watch, step]
    cases hq : w.issuer.requests[q]? with
    | none => exact hw
    | some pc =>
      have h := hw.advanced he hq
      exact hw.advance hq h.store h.succeeds h.served h.expects
  | revoke id writes =>
    exact hw.succeeds (hw.store.revoke id writes).1 (hw.store.succeeds_revoke id writes)
  | restart =>
    -- no request outlives the process
    have hcut : ∀ s' : Store, s'.Sound →
        Watched.Sound ⟨⟨s', w.issuer.requests.map Pc.cutOff⟩, w.known⟩ := by
      intro s' hs'
      have hnot : ∀ (q : ℕ) (pc : Pc), (w.issuer.requests.map Pc.cutOff)[q]? = some pc →
          pc.served = false ∧ ∀ known, pc.Expects known s' := by
        intro q pc hpc
        rw [List.getElem?_map, Option.map_eq_some_iff] at hpc
        obtain ⟨pc₀, -, rfl⟩ := hpc
        cases pc₀ <;> exact ⟨rfl, fun _ => trivial⟩
      refine ⟨hs', by simp [hw.length], ?_, fun q pc hpc => (hnot q pc hpc).2 _⟩
      intro q pc hpc hserved
      rw [(hnot q pc hpc).1] at hserved
      cases hserved
    simp only [Vc.watch, step]
    cases hfile : w.issuer.store.file with
    | none => exact hcut _ sound_newStore.1
    | some file =>
      simp only
      cases hload : newFileStore (some file) with
      | none => exact hw
      | some s' =>
        refine hcut s' (sound_newFileStore ?_ hload).1
        rintro rs heq
        cases heq
        exact (hw.store.saved _ hfile).2

/-! ### One active credential per person -/

/-- The issuer at its start, with a store of its own or one whose file does not exist yet. -/
def start (store : Store) : Watched := { issuer := { store } }

theorem sound_start {store : Store} (h : store.Sound) : (start store).Sound :=
  ⟨h, rfl, fun _ _ hpc => (by cases hpc), fun _ _ hpc => (by cases hpc)⟩

/-- **One person, one active credential**: in a run in which no request is disturbed, at most one
credential per national-id hash is not revoked, and the indexes lead to it.  The run is watched:
it remembers for each request which credentials there were when it arrived, so that what its
lookups find is all that is active when it adds its record. -/
theorem one_active_credential {issuerURL : String} {store : Store}
    (hstore : store = newStore ∨ newFileStore none = some store) {es : List Event}
    (h : Along (watch issuerURL) (Undisturbed issuerURL) (start store) es) :
    (exec (step issuerURL) (start store).issuer es).store.OnePerPerson := by
  have hsound : store.Sound := by
    rcases hstore with rfl | hload
    · exact sound_newStore.1
    · exact (sound_newFileStore (by simp) hload).1
  have hrun := h.invariant (fun _ _ hw he => hw.watch he) (sound_start hsound)
  have hend := hrun.store.consistent.onePerPerson
  rwa [exec_watch] at hend

/-- Two requests for one person, the second after the first; then a revocation, and the
person enrols again. -/
def toyEnrolments : List Event :=
  [.request (.issue "did:key:a" ["c1", "c0"]), .run 0 ⟨"00", true, true⟩, .run 0 ⟨"00", true, true⟩,
    .run 0 ⟨"00", true, true⟩, .run 0 ⟨"00", true, true⟩, .run 0 ⟨"00", true, true⟩,
    .request (.issueMobileMoicaRP "did:key:b" ["c1"]), .run 1 ⟨"01", true, true⟩,
    .revoke "https://issuer/vc/00" true,
    .request (.issuePassport "did:key:b" "c1" "p1" true), .run 2 ⟨"02", true, true⟩,
    .run 2 ⟨"02", true, true⟩, .run 2 ⟨"03", true, true⟩, .run 2 ⟨"04", true, true⟩]

theorem one_active_credential_toy :
    (exec (step "https://issuer") (start newStore).issuer toyEnrolments).store.OnePerPerson :=
  one_active_credential (.inl rfl) (by decide +kernel)

/-! ### Disturbed requests -/

/-- Two requests for one person that both look the person up before either adds a record. -/
def toyRace : List Event :=
  [.request (.issue "did:key:a" ["c1"]), .request (.issue "did:key:b" ["c1"]),
    .run 0 ⟨"00", true, true⟩, .run 1 ⟨"01", true, true⟩, .run 0 ⟨"00", true, true⟩,
    .run 1 ⟨"01", true, true⟩, .run 0 ⟨"00", true, true⟩, .run 1 ⟨"01", true, true⟩]

/-- The race leaves one person with two active credentials. -/
theorem race_two_active :
    ¬ (exec (step "https://issuer") (start newStore).issuer toyRace).store.OnePerPerson := by
  intro h
  have hfirst : (exec (step "https://issuer") (start newStore).issuer toyRace).store.Live 0
      ⟨"https://issuer/vc/00", "did:key:a", "c1", "c1", "", .active⟩ := by decide +kernel
  have hsecond : (exec (step "https://issuer") (start newStore).issuer toyRace).store.Live 1
      ⟨"https://issuer/vc/01", "did:key:b", "c1", "c1", "", .active⟩ := by decide +kernel
  have hsame := h.unique _ _ ⟨0, hfirst⟩ ⟨1, hsecond⟩ (by decide) (by decide) (by decide) rfl
  exact absurd hsame (by decide)

end Ansible.Vc
