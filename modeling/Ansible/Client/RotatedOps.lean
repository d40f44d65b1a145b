import Ansible.AppView.Rebuilder
import Ansible.Client.RemoteSync
import Ansible.Client.SigningBytes
import Ansible.Relay.BoardDelta

/-!
# Ops and the rotation of keys

The relay accepts an op under the key that its author has at that moment, and serves it with the
key that the author has when it is read.  The app trusts the attached key alone.  When the author
has rotated the key in between, the op is dropped, and the cursor goes on behind it.  The deltas
of protected boards have their keys attached in the same way, and cursors of their own.

## Main definitions

* `Client.PullSystem`, `Client.PullAction`, `Client.pullStep` — the relay and a client that pulls.
* `Client.KeyKept`, `Client.OwnLegacyKey` — the key of the author is the one of the op.
* `Client.Pulled` — what holds in a run whose keys are kept.

## Main results

* `Client.nothingLost_of_keyKept` — **in every run in which the key of each op is kept until the op
  is verified, nothing is lost.**
-/

namespace Ansible

namespace Client

open AppView (IngestEnv append submit)

/-! ### The system -/

/-- The surroundings of the relay, and the local time and the cipher of the client. -/
structure PullEnv extends IngestEnv where
  toUtc : ℤ → ℤ
  aes : AesGcm

/-- `validate_fields` -/
def hasRequiredFields (op : OpStore.Op) : Bool :=
  [op.opId, op.authorDid, op.entityType, op.entityId, op.opType, op.payload, op.signature].all
    (· != "")

def PullEnv.ingest (E : PullEnv) : IngestEnv :=
  { E.toIngestEnv with accepts := fun s op => hasRequiredFields op && E.accepts s op }

/-- The relay and a client. -/
structure PullSystem where
  relay : Deployment
  client : SyncClient
  /-- The log ids of the accepted ops, with the algorithm and the key that verified them. -/
  signers : List (ℕ × String × String)
  /-- What the session has to apply of the delta that it reads. -/
  due : List ℤ
  /-- What has been read from the deltas whose cursors were stored: they are behind it. -/
  passed : List ℤ

inductive PullAction
  | identity (act : IdentityAction)
  /-- The boards and their moderation change. -/
  | host (h : ForumHost)
  /-- An op that its author has signed. -/
  | submit (now : Time) (op : OpStore.Op)
  /-- An op of the web rail. -/
  | publish (op : OpStore.Op)
  | configure (settings : SyncSettings)
  /-- A new service, whose verifier has cached nothing. -/
  | renew (resolvesPublicKey : Bool) (localDid : Option String) (authorizesBoardRead : Bool)
  | begin (now : Time)
  /-- The next page, for which a protected board checks the capabilities of the connection. -/
  | fetch (now : Time) (conn : Conn)
  /-- An entry is verified; the resolver and the store of legacy keys answer when asked. -/
  | check (answer legacy : Option String)
  /-- The device holds these keys of encrypted boards. -/
  | apply (keys : BoardEpochKeyStore) (stopsAt : Option ℕ)
  | finish (throwsAfter : Option ℕ)
  /-- The session throws. -/
  | abort

/-- An accepted op, as far as its text is served, that the session applies if it is trusted. -/
def owed (toUtc : ℤ → ℤ) (signers : List (ℕ × String × String)) (session : SyncSession)
    (e : ActivityLogEntry) : Bool :=
  signers.any (fun x => (x.1 : ℤ) == e.logId) && e.signedOp.signature != "" &&
    session.selects toUtc e

namespace PullSystem

/-- The session and its page. -/
def inProgress (s : PullSystem) : Option (SyncSession × PageInProgress) :=
  s.client.session.bind fun session => session.page.map fun page => (session, page)

/-- An op of an author has been accepted. -/
def record (now : Time) (op : OpStore.Op) (s : PullSystem) (relay : Deployment) : PullSystem :=
  { s with
    relay
    signers :=
      if s.relay.ops.length < relay.ops.length then
        s.signers ++ ((OpsController.ingestKey now op.authorDid s.relay.relay).map fun k =>
          (relay.ops.length, k)).toList
      else s.signers }

/-- The answer of the relay: `getDelta`, or `getBoardDelta` for the board of the session, which can
be refused. -/
def answer (E : PullEnv) (now : Time) (conn : Conn) (session : SyncSession) (s : PullSystem) :
    Option OpsController.DeltaPage × Deployment :=
  match session.board with
  | none =>
    let (delta, relay) := OpsController.delta E.host now session.currentCursor 100 s.relay
    (some delta, relay)
  | some (subscription, _) =>
    let cursor : Json :=
      if 0 < session.currentCursor then OpsController.cursorText session.currentCursor else .null
    match OpsController.boardDelta E.host ⟨now, conn⟩ subscription.hostedBoardId cursor
        (OpsController.cursorText 100) s.relay with
    | (.ok page, relay) => (some ⟨page.ops, page.nextCursor.toNat, page.hasMore⟩, relay)
    | (.error _, relay) => (none, relay)

/-- A page arrives. -/
def fetch (E : PullEnv) (now : Time) (conn : Conn) (session : SyncSession) (s : PullSystem) :
    PullSystem :=
  let (delta, relay) := s.answer E now conn session
  let client := delta.elim s.client.abort (s.client.receive now session)
  let entries := (client.session.bind (·.page)).elim [] (·.pending)
  { s with
    relay
    client
    due := s.due ++ (entries.filter (owed E.toUtc s.signers session)).map (·.logId) }

end PullSystem

def pullStep (E : PullEnv) (s : PullSystem) : PullAction → PullSystem
  | .identity act => { s with relay.relay := identityStep E.vp s.relay.relay act }
  | .host h => { s with relay.host := h }
  | .submit now op => s.record now op (submit E.ingest now op s.relay)
  | .publish op => { s with relay := append op s.relay }
  | .configure settings => { s with client.settings := settings }
  | .renew resolvesPublicKey localDid authorizesBoardRead =>
    if s.client.session.isNone then
      { s with client := { s.client with
          verifier := ⟨resolvesPublicKey, localDid, []⟩, authorizesBoardRead } }
    else s
  | .begin now =>
    if s.client.session.isNone then { s with client := s.client.begin now, due := [] } else s
  | .fetch now conn =>
    match s.client.session with
    | some session =>
      if session.page.isNone && session.hasMore then s.fetch E now conn session else s
    | none => s
  | .check answer legacy =>
    match s.inProgress with
    | some (session, page) =>
      { s with client := s.client.check E.vp.toPlatform answer legacy session page }
    | none => s
  | .apply keys stopsAt =>
    match s.inProgress with
    | some (session, page) =>
      { s with client := s.client.applyPage E.aes keys E.toUtc stopsAt session page }
    | none => s
  | .finish throwsAfter =>
    match s.client.session with
    | some session =>
      if session.page.isNone && !session.hasMore then
        { s with
          client := s.client.finish throwsAfter session, due := [], passed := s.passed ++ s.due }
      else s
    | none => s
  | .abort => { s with client := s.client.abort }

/-- A relay without ops, and a client that has pulled nothing. -/
def PullSystem.empty : PullSystem where
  relay := .empty
  client := ⟨⟨false, [], [], [], [], none⟩, 0, [], ⟨true, none, []⟩, false, none, []⟩
  signers := []
  due := []
  passed := []

/-- What a stored cursor is behind has been applied. -/
def NothingLost (s : PullSystem) : Prop := ∀ id ∈ s.passed, id ∈ s.client.applied

/-! ### Kept keys -/

/-- The op is served with the key that verified it when it was accepted, the verifier goes by this
key, and the app writes the signed text as the relay does. -/
def KeyKept (s : PullSystem) (answer : Option String) (e : ActivityLogEntry) : Prop :=
  ∃ x ∈ s.signers, (x.1 : ℤ) = e.logId ∧ e.signedOp.publicKeyHex = some x.2.2 ∧
    (∀ v ∈ (SignedFields.ofApp e.signedOp).values, ¬ SignedFields.Lettered v) ∧
    (s.client.verifier.resolvesPublicKey = true →
      ∃ k ∈ s.client.verifier.heldKey answer e.signedOp.authorDid,
        toLowerCase k = toLowerCase x.2.2)

/-- The op is the user's own, the key that is served with it does not verify it, and the legacy key
of the device does; the verifier has a key for the DID to go by. -/
def OwnLegacyKey (P : Platform) (V : RemoteOpSignatureVerifier) (answer legacy : Option String)
    (op : SignedOp) : Prop :=
  V.localDid = some op.authorDid ∧ isHexText op.signature 128 = true ∧
    (∃ key ∈ op.publicKeyHex, wellFormed key op.signature ∧
      didSignerVerify P key op.signingPayload (verificationSignature key op.signature) = false) ∧
    (∃ key ∈ legacy, isHexText key 64 = true ∧
      didSignerVerify P key op.signingPayload op.signature = true) ∧
    (V.resolvesPublicKey = true → (V.heldKey answer op.authorDid).isSome = true)

/-- When an op that is owed and not applied yet is verified, its key is kept, or the device has
it. -/
def KeepsKey (E : PullEnv) (s : PullSystem) : PullAction → Prop
  | .check answer legacy => ∀ x ∈ s.inProgress, ∀ e ∈ x.2.pending.head?,
      owed E.toUtc s.signers x.1 e = true → e.logId ∉ s.client.applied → KeyKept s answer e ∨
        OwnLegacyKey E.vp.toPlatform s.client.verifier answer legacy e.signedOp
  | _ => True

/-! ### Entries of the log -/

/-- What an entry takes over from its row. -/
structure EntryFrom (r : OpStore.Op × ℕ) (e : ActivityLogEntry) : Prop where
  logId : e.logId = r.2
  matches_activity : e.matchesActivity = true
  isComplete : hasRequiredFields r.1 = true → e.signedOp.signature ≠ "" →
    e.signedOp.isComplete = true
  signature : e.signedOp.signature ≠ "" → e.signedOp.signature = r.1.signature
  signed : e.signedOp.signature ≠ "" → SignedFields.ofApp e.signedOp = SignedFields.ofRelay r.1

variable {r : OpStore.Op × ℕ} {e : ActivityLogEntry} {signers : List (ℕ × String × String)}
  {session : SyncSession} {s : PullSystem} {page : PageInProgress} {E : PullEnv}

theorem entryFrom_served {host : ForumHost} {a : OpsController.Attached} {now : ℤ}
    (h : opToActivityLogEntry now (OpsController.served host r a) = some e) : EntryFrom r e := by
  have hmatches := matchesActivity_opToActivityLogEntry h
  have hserved := OpsController.servedFrom_served host r a
  have hgone := OpsController.signature_of_removed (h := host) (r := r) (a := a)
  generalize OpsController.served host r a = op at h hserved hgone
  simp only [opToActivityLogEntry, Option.bind_eq_bind, Option.bind_eq_some_iff, Option.pure_def,
    Option.some.injEq] at h
  obtain ⟨text, htext, _, -, rfl⟩ := h
  have hread : op.signature.getD "" ≠ "" →
      text = some r.1.payload ∧ op.signature = some r.1.signature := by
    intro hne
    have hkept : op.removed = false := by
      by_contra hremoved
      rw [hgone (Bool.eq_true_of_not_eq_false hremoved)] at hne
      exact hne rfl
    obtain ⟨hpayload, hsignature⟩ := hserved.text hkept
    rw [hpayload] at htext
    exact ⟨(Option.some.inj htext).symm, hsignature⟩
  refine ⟨hserved.logId, hmatches, fun hrequired hne => ?_, fun hne => ?_, fun hne => ?_⟩
  · obtain ⟨rfl, hsignature⟩ := hread hne
    simp only [SignedOp.isComplete, hsignature, Option.getD_some, hserved.opId, hserved.authorDid,
      hserved.entityType, hserved.entityId, hserved.opType]
    exact hrequired
  · obtain ⟨rfl, hsignature⟩ := hread hne
    dsimp only
    rw [hsignature]
    rfl
  · obtain ⟨rfl, hsignature⟩ := hread hne
    simp only [SignedFields.ofApp, SignedFields.ofRelay, Option.getD_some, hserved.opId,
      hserved.authorDid, hserved.entityType, hserved.entityId, hserved.opType]

/-! ### What the run keeps -/

/-- The op has been applied, or its entry is on the page of the session and was not dropped. -/
def Underway (E : PullEnv) (s : PullSystem) (session : SyncSession) (id : ℤ) : Prop :=
  id ∈ s.client.applied ∨ ∃ page ∈ session.page, ∃ e ∈ page.trusted ++ page.pending,
    e.logId = id ∧ owed E.toUtc s.signers session e = true

structure Pulled (E : PullEnv) (s : PullSystem) : Prop where
  opIds : (s.relay.ops.map (·.opId)).Nodup
  signed : ∀ x ∈ s.signers, ∃ r ∈ s.relay.rows, r.2 = x.1 ∧ hasRequiredFields r.1 = true ∧
    SigVerifier.verifyIdentity E.vp.toPlatform x.2.1 x.2.2 (OpsController.signingPayload r.1)
      r.1.signature = true
  served : ∀ x ∈ s.inProgress, ∀ e ∈ x.2.pending, ∃ r ∈ s.relay.rows, EntryFrom r e
  due : ∀ session ∈ s.client.session, ∀ id ∈ s.due, Underway E s session id
  passed : NothingLost s

theorem owed_iff {toUtc : ℤ → ℤ} : owed toUtc signers session e = true ↔
      (∃ x ∈ signers, (x.1 : ℤ) = e.logId) ∧ e.signedOp.signature ≠ "" ∧
        session.selects toUtc e = true := by
  simp only [owed, Bool.and_eq_true, List.any_eq_true, beq_iff_eq, bne_iff_ne, ne_eq, and_assoc]

theorem owed_mono {toUtc : ℤ → ℤ} {signers' : List (ℕ × String × String)}
    (hsub : signers ⊆ signers') (h : owed toUtc signers session e = true) :
    owed toUtc signers' session e = true := by
  obtain ⟨⟨x, hx, hid⟩, hrest⟩ := owed_iff.1 h
  exact owed_iff.2 ⟨⟨x, hsub hx, hid⟩, hrest⟩

theorem mem_inProgress :
    s.inProgress = some (session, page) ↔
      s.client.session = some session ∧ session.page = some page := by
  simp only [PullSystem.inProgress, Option.bind_eq_some_iff, Option.map_eq_some_iff, Prod.mk.injEq]
  constructor
  · rintro ⟨_, hsession, _, hpage, rfl, rfl⟩
    exact ⟨hsession, hpage⟩
  · rintro ⟨hsession, hpage⟩
    exact ⟨session, hsession, page, hpage, rfl, rfl⟩

/-- The row of an accepted op. -/
theorem Pulled.row (h : Pulled E s) {x : ℕ × String × String} (hx : x ∈ s.signers)
    (hr : r ∈ s.relay.rows) (hid : x.1 = r.2) :
    hasRequiredFields r.1 = true ∧ SigVerifier.verifyIdentity E.vp.toPlatform x.2.1 x.2.2
      (OpsController.signingPayload r.1) r.1.signature = true := by
  obtain ⟨r', hr', hid', hrequired, hverified⟩ := h.signed x hx
  have hids : (s.relay.rows.map Prod.snd).Nodup := by
    rw [OpsController.rows_snd]
    exact List.nodup_range'
  obtain rfl := List.inj_on_of_nodup_map hids hr' hr (hid'.trans hid)
  exact ⟨hrequired, hverified⟩

/-- **An op whose key is kept is trusted.** -/
theorem Pulled.trusted (h : Pulled E s) (hr : r ∈ s.relay.rows) (hentry : EntryFrom r e)
    (howed : owed E.toUtc s.signers session e = true) {answer legacy : Option String}
    (hkept : KeyKept s answer e ∨
      OwnLegacyKey E.vp.toPlatform s.client.verifier answer legacy e.signedOp) :
    (s.client.verifier.isTrusted E.vp.toPlatform answer legacy e).1 = true := by
  obtain ⟨⟨x, hx, hid⟩, hsignature, -⟩ := owed_iff.1 howed
  have hcomplete := hentry.isComplete
    (h.row hx hr (Int.ofNat.inj (hid.trans hentry.logId))).1 hsignature
  rcases hkept with ⟨x, hx, hid, hkey, hplain, hheld⟩ | ⟨hown, hform, ⟨key, hkey, hwell, hnot⟩,
    ⟨own, hlegacy, hhex, hverified⟩, hheld⟩
  · -- the relay has verified the op under the key that it serves
    obtain ⟨-, hverified⟩ := h.row hx hr (Int.ofNat.inj (hid.trans hentry.logId))
    have htext : e.signedOp.signingPayload = OpsController.signingPayload r.1 := by
      rw [← SignedFields.app_ofApp, (SignedFields.app_eq_relay_iff _).2 hplain,
        hentry.signed hsignature, SignedFields.relay_ofRelay]
    rw [← hentry.signature hsignature, ← htext] at hverified
    obtain ⟨hwell, hverifies⟩ := didSignerVerify_of_verifyIdentity hverified
    have hverified : s.client.verifier.verifiedPublicKey E.vp.toPlatform legacy e.signedOp x.2.2
        = some (x.2.2, false) := by
      unfold RemoteOpSignatureVerifier.verifiedPublicKey
      rw [if_pos hverifies]
    refine RemoteOpSignatureVerifier.isTrusted_of_verified hkey hcomplete hwell
      hentry.matches_activity hverified fun hresolves => ?_
    obtain ⟨k, hk, hsame⟩ := hheld hresolves
    exact ⟨k, hk, .inl hsame⟩
  · have hverified : s.client.verifier.verifiedPublicKey E.vp.toPlatform legacy e.signedOp key
        = some (own, true) := by
      unfold RemoteOpSignatureVerifier.verifiedPublicKey
      rw [if_neg (by rw [hnot]; decide), if_pos ⟨hown, hform⟩, Option.mem_def.1 hlegacy]
      dsimp only
      rw [if_pos (by rw [hhex, hverified]; rfl)]
    refine RemoteOpSignatureVerifier.isTrusted_of_verified hkey hcomplete hwell
      hentry.matches_activity hverified fun hresolves => ?_
    obtain ⟨k, hk⟩ := Option.isSome_iff_exists.1 (hheld hresolves)
    exact ⟨k, hk, .inr rfl⟩

/-! ### The steps -/

/-- The relay goes on. -/
theorem Pulled.relay (h : Pulled E s) {t : Deployment} (hops : (t.ops.map (·.opId)).Nodup)
    (hrows : s.relay.rows ⊆ t.rows) (hsub : s.signers ⊆ signers)
    (hsigned : ∀ x ∈ signers, x ∉ s.signers → ∃ r ∈ t.rows, r.2 = x.1 ∧
      hasRequiredFields r.1 = true ∧ SigVerifier.verifyIdentity E.vp.toPlatform x.2.1 x.2.2
        (OpsController.signingPayload r.1) r.1.signature = true) :
    Pulled E { s with relay := t, signers } := by
  refine ⟨hops, fun x hx => ?_, fun x hx e he => ?_, fun session hsession id hid => ?_, h.passed⟩
  · by_cases hold : x ∈ s.signers
    · obtain ⟨r, hr, hrest⟩ := h.signed x hold
      exact ⟨r, hrows hr, hrest⟩
    · exact hsigned x hx hold
  · obtain ⟨r, hr, hentry⟩ := h.served x hx e he
    exact ⟨r, hrows hr, hentry⟩
  · rcases h.due session hsession id hid with happlied | ⟨page, hpage, e, he, hlog, howed⟩
    · exact .inl happlied
    · exact .inr ⟨page, hpage, e, he, hlog, owed_mono hsub howed⟩

/-- An op is accepted under the key of its author. -/
theorem submit_cases (E : PullEnv) (now : Time) (op : OpStore.Op) (s : Deployment) :
    (submit E.ingest now op s).ops = s.ops ∨
      (submit E.ingest now op s).ops = s.ops ++ [op] ∧ hasRequiredFields op = true ∧
        ∃ k, OpsController.ingestKey now op.authorDid s.relay = some k ∧
          SigVerifier.verifyIdentity E.vp.toPlatform k.1 k.2 (OpsController.signingPayload op)
            op.signature = true := by
  have hchecked := @OpsController.checkIdentity_eq_ok E.ingest.vp.toEnv now op.authorDid
    (OpsController.signingPayload op) op.signature s.relay
  unfold submit
  generalize OpsController.checkIdentity E.ingest.vp.toEnv now op.authorDid
    (OpsController.signingPayload op) op.signature s.relay = r at hchecked
  obtain ⟨_ | _, relay⟩ := r
  · exact .inl rfl
  · dsimp only
    split
    · next haccepts =>
      have haccepts : (hasRequiredFields op && E.accepts { s with relay } op) = true := haccepts
      obtain ⟨entry, hentry, -, -, hverified⟩ := hchecked.1 rfl
      unfold append
      split
      · exact .inl rfl
      · refine .inr ⟨rfl, (Bool.and_eq_true_iff.1 haccepts).1,
          (entry.signingAlgorithm, entry.publicKeyHex), ?_, hverified⟩
        rw [OpsController.ingestKey, hentry]
        rfl
    · exact .inl rfl

theorem Pulled.record (h : Pulled E s) (now : Time) (op : OpStore.Op) :
    Pulled E (s.record now op (submit E.ingest now op s.relay)) := by
  obtain ⟨hops, hrows⟩ := AppView.submit_spec E.ingest now op h.opIds
  have hcases := submit_cases E now op s.relay
  generalize submit E.ingest now op s.relay = t at hops hrows hcases
  unfold PullSystem.record
  rcases hcases with hsame | ⟨happended, hrequired, k, hkey, hverified⟩
  · rw [if_neg (by rw [hsame]; exact lt_irrefl _)]
    exact h.relay hops hrows (List.Subset.refl _) fun x hx hnot => absurd hx hnot
  · have hlen : t.ops.length = s.relay.ops.length + 1 := by
      rw [happended, List.length_append]
      rfl
    rw [if_pos (by omega), hkey]
    refine h.relay hops hrows (List.subset_append_left _ _) fun x hx hnot => ?_
    rcases List.mem_append.1 hx with hx | hx
    · exact absurd hx hnot
    · obtain rfl : x = (t.ops.length, k) := by simpa using hx
      refine ⟨(op, s.relay.ops.length + 1), ?_, hlen.symm, hrequired, hverified⟩
      have hrows' : t.rows = s.relay.rows ++ [(op, s.relay.ops.length + 1)] := by
        rw [← OpsController.rows_append]
        exact AppView.rows_of_ops happended
      rw [hrows']
      exact List.mem_append_right _ (List.mem_singleton.2 rfl)

/-- The client goes on. -/
theorem Pulled.client (h : Pulled E s) {client : SyncClient} {due passed : List ℤ}
    (hserved : ∀ session ∈ client.session, ∀ page ∈ session.page, ∀ e ∈ page.pending,
      ∃ r ∈ s.relay.rows, EntryFrom r e)
    (hdue : ∀ session ∈ client.session, ∀ id ∈ due,
      Underway E { s with client, due, passed } session id)
    (hpassed : ∀ id ∈ passed, id ∈ client.applied) : Pulled E { s with client, due, passed } := by
  refine ⟨h.opIds, h.signed, fun x hx e he => ?_, hdue, hpassed⟩
  obtain ⟨session, page⟩ := x
  obtain ⟨hsession, hpage⟩ := mem_inProgress.1 hx
  exact hserved session hsession page hpage e he

theorem Pulled.abort (h : Pulled E s) {applied : List ℤ} (hsub : s.client.applied ⊆ applied)
    (due : List ℤ) : Pulled E { s with client := { s.client.abort with applied }, due } :=
  h.client (fun _ hsession => by cases hsession) (fun _ hsession => by cases hsession)
    fun id hid => hsub (h.passed id hid)

theorem exists_of_mem_mapM {α β : Type*} {f : α → Option β} {l : List α} :
    ∀ {l' : List β}, l.mapM f = some l' → ∀ y ∈ l', ∃ x ∈ l, f x = some y := by
  induction l with
  | nil =>
    intro l' h y hy
    cases h
    cases hy
  | cons x l ih =>
    intro l' h y hy
    rw [List.mapM_cons] at h
    simp only [Option.bind_eq_bind, Option.bind_eq_some_iff, Option.pure_def,
      Option.some.injEq] at h
    obtain ⟨z, hz, rest, hrest, rfl⟩ := h
    rcases List.mem_cons.1 hy with rfl | hy
    · exact ⟨x, List.mem_cons_self, hz⟩
    · obtain ⟨x', hx', hy⟩ := ih hrest y hy
      exact ⟨x', List.mem_cons_of_mem _ hx', hy⟩

theorem Underway.applied {id : ℤ} (h : Underway E s session id) (hpage : session.page = none) :
    id ∈ s.client.applied := by
  rcases h with happlied | ⟨page, hpage', -⟩
  · exact happlied
  · rw [hpage] at hpage'
    cases hpage'

/-- The ops of an answer are served rows, and the log is as before. -/
theorem answer_spec (E : PullEnv) (now : Time) (conn : Conn) (session : SyncSession)
    (s : PullSystem) : (s.answer E now conn session).2.ops = s.relay.ops ∧
      ∀ delta ∈ (s.answer E now conn session).1, ∀ op ∈ delta.ops,
        ∃ r ∈ s.relay.rows, ∃ host a, op = OpsController.served host r a := by
  unfold PullSystem.answer
  cases session.board with
  | none =>
    refine ⟨rfl, ?_⟩
    rintro _ ⟨⟩ op hop
    exact OpsController.exists_served_of_mem_delta hop
  | some b =>
    dsimp only
    generalize hcursor : (if 0 < session.currentCursor then
      OpsController.cursorText session.currentCursor else Json.null) = cursor
    have hops := OpsController.boardDelta_keeps E.host ⟨now, conn⟩ b.1.hostedBoardId cursor
      (OpsController.cursorText 100) s.relay
    cases hpage : OpsController.boardDelta E.host ⟨now, conn⟩ b.1.hostedBoardId cursor
      (OpsController.cursorText 100) s.relay with
    | mk r relay =>
      rw [hpage] at hops
      cases r with
      | error e => exact ⟨hops, fun _ h => by cases h⟩
      | ok page =>
        refine ⟨hops, ?_⟩
        rintro _ ⟨⟩ op hop
        exact OpsController.exists_served_of_mem_boardDelta hpage hop

theorem Pulled.fetch (h : Pulled E s) (now : Time) (conn : Conn)
    (hsession : s.client.session = some session) (hpage : session.page = none) :
    Pulled E (s.fetch E now conn session) := by
  unfold PullSystem.fetch
  obtain ⟨hops, hmem⟩ := answer_spec E now conn session s
  generalize s.answer E now conn session = r at hops hmem
  obtain ⟨answer, relay⟩ := r
  dsimp only at hops hmem ⊢
  have hrows : relay.rows = s.relay.rows := AppView.rows_of_ops hops
  have hrelay : Pulled E { s with relay } :=
    h.relay (by rw [hops]; exact h.opIds) (by rw [hrows]; exact List.Subset.refl _)
      (List.Subset.refl _) fun x hx hnot => absurd hx hnot
  cases answer with
  | none => exact hrelay.abort (List.Subset.refl _) _
  | some delta =>
  rw [Option.elim_some]
  unfold SyncClient.receive
  cases hentries : delta.ops.mapM (opToActivityLogEntry now) with
  | none => exact hrelay.abort (List.Subset.refl _) _
  | some entries =>
    refine hrelay.client ?_ ?_ h.passed
    · rintro _ ⟨⟩ _ ⟨⟩ e he
      obtain ⟨op, hop, hread⟩ := exists_of_mem_mapM hentries e he
      obtain ⟨r, hr, host, a, rfl⟩ := hmem delta rfl op hop
      exact ⟨r, hrows ▸ hr, entryFrom_served hread⟩
    · rintro _ ⟨⟩ id hid
      rcases List.mem_append.1 hid with hid | hid
      · exact .inl ((h.due session hsession id hid).applied hpage)
      · obtain ⟨e, he, rfl⟩ := List.mem_map.1 hid
        obtain ⟨he, howed⟩ := List.mem_filter.1 he
        exact .inr ⟨_, rfl, e, he, rfl, howed⟩

/-- An entry is verified. -/
theorem Pulled.check (h : Pulled E s) {answer legacy : Option String}
    (hprogress : s.inProgress = some (session, page))
    (hkept : KeepsKey E s (.check answer legacy)) :
    Pulled E { s with
      client := s.client.check E.vp.toPlatform answer legacy session page } := by
  obtain ⟨hsession, hpage⟩ := mem_inProgress.1 hprogress
  have hserved := h.served _ hprogress
  unfold SyncClient.check
  cases hpending : page.pending with
  | nil => exact h
  | cons e pending =>
    rw [hpending] at hserved
    obtain ⟨r, hr, hentry⟩ := hserved e List.mem_cons_self
    have htrusted : owed E.toUtc s.signers session e = true → e.logId ∉ s.client.applied →
        (s.client.verifier.isTrusted E.vp.toPlatform answer legacy e).1 = true :=
      fun howed hnot => h.trusted hr hentry howed
        (hkept _ hprogress e (by rw [hpending]; rfl) howed hnot)
    dsimp only
    generalize s.client.verifier.isTrusted E.vp.toPlatform answer legacy e = checked at htrusted
    obtain ⟨trusted, verifier⟩ := checked
    refine h.client ?_ ?_ h.passed
    · rintro _ ⟨⟩ _ ⟨⟩ e' he'
      exact hserved e' (List.mem_cons_of_mem _ he')
    · rintro _ ⟨⟩ id hid
      rcases h.due session hsession id hid with happlied | ⟨page', hpage', e', he', hid', howed⟩
      · exact .inl happlied
      by_cases hold : id ∈ s.client.applied
      · exact .inl hold
      obtain rfl : page = page' := Option.some.inj (hpage.symm.trans hpage')
      refine .inr ⟨_, rfl, e', ?_, hid', howed⟩
      rw [hpending] at he'
      rcases List.mem_append.1 he' with he' | he'
      · refine List.mem_append_left _ ?_
        dsimp only
        split
        · exact List.mem_append_left _ he'
        · exact he'
      · -- what is owed is trusted, and so applied with the page
        rcases List.mem_cons.1 he' with rfl | he'
        · refine List.mem_append_left _ ?_
          dsimp only
          rw [if_pos (htrusted howed (hid'.symm ▸ hold))]
          exact List.mem_append_right _ (List.mem_singleton.2 rfl)
        · exact List.mem_append_right _ he'

/-- A page is applied. -/
theorem Pulled.applyPage (h : Pulled E s) (keys : BoardEpochKeyStore) (stopsAt : Option ℕ)
    (hprogress : s.inProgress = some (session, page)) :
    Pulled E { s with
      client := s.client.applyPage E.aes keys E.toUtc stopsAt session page } := by
  obtain ⟨hsession, hpage⟩ := mem_inProgress.1 hprogress
  unfold SyncClient.applyPage
  split
  · next hempty =>
    split
    · cases stopsAt with
      | some count => exact h.abort (List.subset_append_left _ _) _
      | none =>
        refine h.client ?_ ?_ fun id hid => List.mem_append_left _ (h.passed id hid)
        · rintro _ ⟨⟩ _ ⟨⟩
        · rintro _ ⟨⟩ id hid
          refine .inl ?_
          rcases h.due session hsession id hid with happlied | ⟨page', hpage', e, he, rfl, howed⟩
          · exact List.mem_append_left _ happlied
          obtain rfl : page = page' := Option.some.inj (hpage.symm.trans hpage')
          rw [List.isEmpty_iff.1 hempty, List.append_nil] at he
          exact List.mem_append_right _ (List.mem_map_of_mem
            (List.mem_filter.2 ⟨he, (owed_iff.1 howed).2.2⟩))
    · exact h.abort (List.Subset.refl _) _
  · exact h

/-- The cursors are stored. -/
theorem Pulled.finish (h : Pulled E s) (throwsAfter : Option ℕ)
    (hsession : s.client.session = some session) (hpage : session.page = none) :
    Pulled E { s with
      client := s.client.finish throwsAfter session, due := [], passed := s.passed ++ s.due } := by
  have hpassed : ∀ id ∈ s.passed ++ s.due, id ∈ s.client.applied := fun id hid =>
    (List.mem_append.1 hid).elim (h.passed id) fun hid =>
      (h.due session hsession id hid).applied hpage
  unfold SyncClient.finish
  cases throwsAfter with
  | some count => exact h.client (fun _ h => by cases h) (fun _ h => by cases h) hpassed
  | none =>
    dsimp only
    unfold SyncClient.next
    split
    · -- the delta of a protected board is next
      refine h.client ?_ (fun _ _ _ hid => absurd hid List.not_mem_nil) hpassed
      rintro _ ⟨⟩ _ ⟨⟩
    · exact h.client (fun _ h => by cases h) (fun _ h => by cases h) hpassed

theorem Pulled.step (s : PullSystem) (a : PullAction) (h : Pulled E s) (hkept : KeepsKey E s a) :
    Pulled E (pullStep E s a) := by
  have hsame : ∀ t : Deployment, t.ops = s.relay.ops → Pulled E { s with relay := t } :=
    fun t ht => h.relay (by rw [ht]; exact h.opIds)
      (by rw [AppView.rows_of_ops ht]; exact List.Subset.refl _) (List.Subset.refl _)
      fun x hx hnot => absurd hx hnot
  cases a with
  | identity act => exact hsame _ rfl
  | host host => exact hsame _ rfl
  | submit now op => exact h.record now op
  | publish op =>
    obtain ⟨hops, hrows⟩ := AppView.append_spec op h.opIds
    exact h.relay hops hrows (List.Subset.refl _) fun x hx hnot => absurd hx hnot
  | configure settings => exact ⟨h.opIds, h.signed, h.served, h.due, h.passed⟩
  | renew resolvesPublicKey localDid authorizesBoardRead =>
    unfold pullStep
    dsimp only
    split
    · exact ⟨h.opIds, h.signed, h.served, h.due, h.passed⟩
    · exact h
  | begin now =>
    -- a session starts without a page, so it owes nothing yet
    unfold pullStep
    dsimp only
    split
    · unfold SyncClient.begin
      dsimp only
      split
      · exact ⟨h.opIds, h.signed, h.served, fun _ _ _ hid => absurd hid List.not_mem_nil, h.passed⟩
      · refine h.client ?_ (fun _ _ _ hid => absurd hid List.not_mem_nil) h.passed
        rintro _ ⟨⟩ _ ⟨⟩
    · exact h
  | fetch now conn =>
    unfold pullStep
    dsimp only
    split
    · next session hsession =>
      split
      · next hready =>
        exact h.fetch now conn hsession
          (Option.isNone_iff_eq_none.1 (Bool.and_eq_true_iff.1 hready).1)
      · exact h
    · exact h
  | check answer legacy =>
    unfold pullStep
    dsimp only
    split
    · -- the one step that can drop an op that is owed
      next session page hprogress => exact h.check hprogress hkept
    · exact h
  | apply keys stopsAt =>
    unfold pullStep
    dsimp only
    split
    · next session page hprogress => exact h.applyPage keys stopsAt hprogress
    · exact h
  | finish throwsAfter =>
    unfold pullStep
    dsimp only
    split
    · next session hsession =>
      split
      · next hready =>
        exact h.finish throwsAfter hsession
          (Option.isNone_iff_eq_none.1 (Bool.and_eq_true_iff.1 hready).1)
      · exact h
    · exact h
  | abort => exact h.abort (List.Subset.refl _) _

theorem pulled_empty (E : PullEnv) : Pulled E .empty := by
  refine ⟨List.nodup_nil, fun _ hx => absurd hx List.not_mem_nil, ?_, ?_,
    fun _ hid => absurd hid List.not_mem_nil⟩ <;> rintro _ ⟨⟩

instance (key sig : String) : Decidable (wellFormed key sig) :=
  inferInstanceAs (Decidable (_ ∧ _))

instance (s : PullSystem) (answer : Option String) (e : ActivityLogEntry) :
    Decidable (KeyKept s answer e) :=
  inferInstanceAs (Decidable (∃ x ∈ s.signers, (x.1 : ℤ) = e.logId ∧
    e.signedOp.publicKeyHex = some x.2.2 ∧
    (∀ v ∈ (SignedFields.ofApp e.signedOp).values, ¬ SignedFields.Lettered v) ∧
    (s.client.verifier.resolvesPublicKey = true →
      ∃ k ∈ s.client.verifier.heldKey answer e.signedOp.authorDid,
        toLowerCase k = toLowerCase x.2.2)))

instance (P : Platform) (V : RemoteOpSignatureVerifier) (answer legacy : Option String)
    (op : SignedOp) : Decidable (OwnLegacyKey P V answer legacy op) :=
  inferInstanceAs (Decidable (V.localDid = some op.authorDid ∧ isHexText op.signature 128 = true ∧
    (∃ key ∈ op.publicKeyHex, wellFormed key op.signature ∧
      didSignerVerify P key op.signingPayload (verificationSignature key op.signature) = false) ∧
    (∃ key ∈ legacy, isHexText key 64 = true ∧
      didSignerVerify P key op.signingPayload op.signature = true) ∧
    (V.resolvesPublicKey = true → (V.heldKey answer op.authorDid).isSome = true)))

instance (E : PullEnv) (s : PullSystem) : ∀ a, Decidable (KeepsKey E s a)
  | .check answer legacy => inferInstanceAs (Decidable (∀ x ∈ s.inProgress,
      ∀ e ∈ x.2.pending.head?, owed E.toUtc s.signers x.1 e = true →
        e.logId ∉ s.client.applied → KeyKept s answer e ∨
          OwnLegacyKey E.vp.toPlatform s.client.verifier answer legacy e.signedOp))
  | .identity _ | .host _ | .submit _ _ | .publish _ | .configure _ | .renew _ _ _ | .begin _
  | .fetch _ _ | .apply _ _ | .finish _ | .abort => isTrue trivial

def toyPullEnv : PullEnv := { AppView.toyIngestEnv with toUtc := id, aes := toyAesGcm [] }

/-- A post of Alice to the board `alpha`, which only its moderators may read. -/
def toyHostedPost : OpStore.Op :=
  let unsigned := { AppView.unsignedMurmur with
    opId := "b", entityType := "post", entityId := "p"
    payload := "\x7b\"boardId\":\"alpha\",\"threadId\":\"t\"\x7d"
    receivedAt := "2024-01-01T00:00:00Z" }
  { unsigned with signature := toySign 1 (OpsController.signingPayload unsigned) }

def toyModeratorsPolicy : Json := BoardAccessPolicy.default.merge
  [("read", .obj [("requirement", .str "board_moderator")]),
    ("content_visibility", .str "host_visible"), ("federation", .str "disabled")]

def toyProtectedHost : ForumHost := { ForumHost.empty with
  boards := ⟨[{ Moderation.toyBoard 1 "alpha" with
      accessPolicy := toyModeratorsPolicy, contentVisibility := .hostVisible }],
    by decide⟩ }

/-- A reader of the board, who moderates it. -/
def toySettings : SyncSettings where
  requireBoardSyncConfig := false
  boardConfigs := []
  boardSubscriptions := [⟨"s", "alpha", true, 0, none⟩]
  projections := [⟨"alpha", "local", toyModeratorsPolicy, 1, "host_visible", 0, "disabled"⟩]
  followedAuthorDids := []
  followerDid := none

def toyModerator : Conn := { Conn.plain with boardCapability := fun _ _ => none }

/-- Alice's murmur and her post are accepted. -/
def acceptedRun : List PullAction :=
  [.identity (.register 0 "nonce" (toyRegister 1 "alice")),
    .identity (.anchor 0 (toyRegistration 1 Reputation.toyDid "alice.elix.cool" "nonce")),
    .host toyProtectedHost,
    .submit 0 { AppView.signedMurmur with receivedAt := "2024-01-01T00:00:00Z" },
    .submit 0 toyHostedPost]

/-- A client pulls the log and the board; the resolver knows the key of a number. -/
def pullRun (n : UInt8) : List PullAction :=
  let page : List PullAction :=
    [.fetch 0 toyModerator, .check (some (toyKeyHex n)) none, .apply toyEpochKeys none,
      .finish none]
  [.configure toySettings, .renew true none true, .begin 0] ++ page ++ page

/-- Alice rotates her key before the client reads her ops. -/
def rotatedRun : List PullAction :=
  acceptedRun ++ .identity (.rotateKey 0 (toyKeyRotation Reputation.toyDid 1 2 1)) :: pullRun 2

end Client

end Ansible
