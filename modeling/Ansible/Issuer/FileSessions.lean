import Ansible.Issuer.SessionLedger
import Ansible.Lib.Run

/-!
# Sessions in a file are used once

Every operation of the store in a file holds its lock, so an operation is one step of a
run.  A restart forgets what could not be written to the file.

## Main definitions

* `SessionStore.markReplayIDConsumed`, `cleanupExpired`, `restart` — the other operations.
* `FileAct`, `fileStep` — the operations, and what the ledger records of them.

## Main results

* `SessionStore.consumeAuthState_cases`, `consumeVerifiedSession_cases` — what a
  consumption does.
* `file_sound` — in every run of the store in a file, every session is consumed at most
  once and no replay id is accepted twice before its expiry.
-/

namespace Ansible.Vc

namespace SessionStore

/-- A replay id of the maps that has not expired. -/
def replayed (s : SessionStore) (replayID : String) (now : Instant) : Bool :=
  (s.data.replayIDs.lookup replayID).any (decide <| now < ·)

def markReplayIDConsumed (replayID : String) (expiresAt now : Instant) (writes : Bool)
    (s : SessionStore) : Except SessionError Unit × SessionStore :=
  if replayID = "" then (.error .missingField, s)
  else if s.replayed replayID now then (.error .replay, s)
  else save { s with
    data := { s.data with replayIDs := s.data.replayIDs.insert replayID expiresAt } } writes ()

/-- What expired before the retention began, and not less recently than that. -/
def expiredBeyondRetention (expiresAt retention now : Instant) : Bool :=
  !decide (now < expiresAt + max retention 0)

/-- The maps without what expired before the retention began. -/
def cleaned (retention now : Instant) (d : SessionData) : SessionData where
  authSessions := d.authSessions.filterValues (!expiredBeyondRetention ·.expiresAt retention now)
  verifiedSessions :=
    d.verifiedSessions.filterValues (!expiredBeyondRetention ·.expiresAt retention now)
  replayIDs := d.replayIDs.filterValues (!expiredBeyondRetention · retention now)

def cleanupExpired (retention now : Instant) (writes : Bool) (s : SessionStore) :
    Except SessionError Unit × SessionStore :=
  save { s with data := cleaned retention now s.data } writes ()

/-- The maps are read from the file. -/
def restart (s : SessionStore) : SessionStore := { s with data := s.file }

/-! ### What a consumption does -/

/-- A consumption is refused and changes nothing, or marks the session, and the replay id. -/
theorem consumeAuthState_cases (state replayID : String) (now : Instant) (writes : Bool)
    (s : SessionStore) :
    (∃ e, s.consumeAuthState state replayID now writes = (.error e, s)) ∨
      ∃ session, s.data.authSessions.lookup state = some session ∧ session.consumed = false ∧
        (replayKey state replayID ≠ "" → s.replayed (replayKey state replayID) now = false) ∧
        s.consumeAuthState state replayID now writes = save { s with
          data := { s.data with
            authSessions := s.data.authSessions.insert state { session with consumed := true }
            replayIDs := if replayKey state replayID = "" then s.data.replayIDs
              else s.data.replayIDs.insert (replayKey state replayID) session.expiresAt } }
          writes { session with consumed := true } := by
  unfold consumeAuthState
  dsimp only
  split
  · exact .inl ⟨_, rfl⟩
  rename_i hreplay
  split
  · exact .inl ⟨_, rfl⟩
  rename_i session hsession
  split
  · exact .inl ⟨_, rfl⟩
  rename_i hconsumed
  split
  · exact .inl ⟨_, rfl⟩
  refine .inr ⟨session, hsession, Bool.eq_false_iff.2 hconsumed, ?_, rfl⟩
  intro hne
  exact Bool.eq_false_iff.2 fun h => hreplay ⟨hne, h⟩

theorem consumeVerifiedSession_cases (offerID : String) (now : Instant) (writes : Bool)
    (s : SessionStore) :
    (∃ e, s.consumeVerifiedSession offerID now writes = (.error e, s)) ∨
      ∃ session, s.data.verifiedSessions.lookup offerID = some session ∧
        session.consumed = false ∧
        s.consumeVerifiedSession offerID now writes = save { s with
          data := { s.data with
            verifiedSessions :=
              s.data.verifiedSessions.insert offerID { session with consumed := true } } }
          writes { session with consumed := true } := by
  unfold consumeVerifiedSession getVerifiedSession
  cases hsession : s.data.verifiedSessions.lookup offerID with
  | none => exact .inl ⟨_, rfl⟩
  | some session =>
    dsimp only
    by_cases hfree : session.consumed ∨ ¬ now < session.expiresAt
    · rw [if_pos hfree]
      exact .inl ⟨_, rfl⟩
    · rw [if_neg hfree]
      exact .inr ⟨session, rfl, Bool.eq_false_iff.2 fun h => hfree (.inl h), rfl⟩

/-- A write reaches the file when it succeeds, and leaves the file when it does not. -/
theorem save_cases {α : Type} (s : SessionStore) (writes : Bool) (a : α) :
    save s writes a = (.ok a, { s with file := s.data }) ∨
      save s writes a = (.error .persist, s) := by
  unfold save
  split
  · exact .inl rfl
  · exact .inr rfl

end SessionStore

/-! ### The maps after a write -/

namespace SessionData

variable (d : SessionData)

/-- The maps with a session that is consumed. -/
def markAuth (state : String) (session : AuthSession) : SessionData :=
  { d with authSessions := d.authSessions.insert state { session with consumed := true } }

def markVerified (offerID : String) (session : VerifiedSession) : SessionData :=
  { d with
    verifiedSessions := d.verifiedSessions.insert offerID { session with consumed := true } }

theorem used_insertAuth (a : AuthSession) (state : String) (replayIDs : Assoc String Instant)
    (t : Ticket) :
    used { d with authSessions := d.authSessions.insert state a, replayIDs } t =
      if t = .state state then some a.consumed else d.used t := by
  cases t with
  | state state' =>
    simp only [used, Assoc.lookup_insert', Ticket.state.injEq]
    split <;> rfl
  | offer offerID => simp [used]

theorem used_insertVerified (v : VerifiedSession) (offerID : String) (t : Ticket) :
    used { d with verifiedSessions := d.verifiedSessions.insert offerID v } t =
      if t = .offer offerID then some v.consumed else d.used t := by
  cases t with
  | state state => simp [used]
  | offer offerID' =>
    simp only [used, Assoc.lookup_insert', Ticket.offer.injEq]
    split <;> rfl

theorem used_markAuth (state : String) (session : AuthSession) (t : Ticket) :
    (d.markAuth state session).used t = if t = .state state then some true else d.used t :=
  d.used_insertAuth { session with consumed := true } state d.replayIDs t

theorem used_markVerified (offerID : String) (session : VerifiedSession) (t : Ticket) :
    (d.markVerified offerID session).used t = if t = .offer offerID then some true else d.used t :=
  d.used_insertVerified { session with consumed := true } offerID t

/-- A clean-up drops sessions, and marks none as free. -/
theorem used_cleaned {retention now : Instant} {t : Ticket}
    (h : (SessionStore.cleaned retention now d).used t = some false) : d.used t = some false := by
  cases t with
  | state state =>
    obtain ⟨a, ha, hfree⟩ := Option.map_eq_some_iff.1 h
    exact Option.map_eq_some_iff.2 ⟨a, Assoc.lookup_of_filterValues ha, hfree⟩
  | offer offerID =>
    obtain ⟨v, hv, hfree⟩ := Option.map_eq_some_iff.1 h
    exact Option.map_eq_some_iff.2 ⟨v, Assoc.lookup_of_filterValues hv, hfree⟩

theorem replay_cleaned {retention now : Instant} {r : String} {e : Instant}
    (h : d.replayIDs.lookup r = some e) :
    e ≤ now ∨ (SessionStore.cleaned retention now d).replayIDs.lookup r = some e := by
  by_cases hexp : SessionStore.expiredBeyondRetention e retention now
  · simp only [SessionStore.expiredBeyondRetention, Bool.not_eq_true',
      decide_eq_false_iff_not] at hexp
    exact .inl (Int.le_trans (Int.le_add_of_nonneg_right (le_max_right retention 0))
      (Int.not_lt.1 hexp))
  · refine .inr ?_
    rw [SessionStore.cleaned, Assoc.lookup_filterValues, h, Option.filter_some,
      if_pos (by simpa using hexp)]

end SessionData

/-! ### Runs -/

/-- The store and the ledger of its run. -/
structure FileRun where
  store : SessionStore := {}
  ledger : Ledger

/-- An operation of the store; each may fail to write the file. -/
inductive FileAct where
  | createAuthSession (session : AuthSession) (writes : Bool)
  | consumeAuthState (state replayID : String) (now : Instant) (writes : Bool)
  | markReplayIDConsumed (replayID : String) (expiresAt now : Instant) (writes : Bool)
  | storeVerifiedSession (session : VerifiedSession) (writes : Bool)
  | consumeVerifiedSession (offerID : String) (now : Instant) (writes : Bool)
  | cleanupExpired (retention now : Instant) (writes : Bool)
  | restart

/-- One operation; the ledger records what it opens, and what it grants when it succeeds. -/
def fileStep (s : FileRun) : FileAct → FileRun
  | .createAuthSession session writes =>
    { store := (s.store.createAuthSession session writes).2
      ledger := if session.offerID = "" ∨ session.state = "" ∨ session.did = "" then s.ledger
        else s.ledger.openTicket (.state session.state) }
  | .consumeAuthState state replayID now writes =>
    let ledger := s.ledger.tick now
    match s.store.consumeAuthState state replayID now writes with
    | (.ok session, store) =>
      { store
        ledger := (ledger.consume (.state state) (ledger.opened (.state state))).acceptReplay
          (SessionStore.replayKey state replayID) session.expiresAt }
    | (.error _, store) => { store, ledger }
  | .markReplayIDConsumed replayID expiresAt now writes =>
    let ledger := s.ledger.tick now
    match s.store.markReplayIDConsumed replayID expiresAt now writes with
    | (.ok (), store) => { store, ledger := ledger.acceptReplay replayID expiresAt }
    | (.error _, store) => { store, ledger }
  | .storeVerifiedSession session writes =>
    { store := (s.store.storeVerifiedSession session writes).2
      ledger := if session.offerID = "" ∨ session.did = "" ∨ session.subjectCommitment = "" then
          s.ledger
        else s.ledger.openTicket (.offer session.offerID) }
  | .consumeVerifiedSession offerID now writes =>
    let ledger := s.ledger.tick now
    match s.store.consumeVerifiedSession offerID now writes with
    | (.ok _, store) =>
      { store, ledger := ledger.consume (.offer offerID) (ledger.opened (.offer offerID)) }
    | (.error _, store) => { store, ledger }
  | .cleanupExpired retention now writes =>
    { store := (s.store.cleanupExpired retention now writes).2, ledger := s.ledger.tick now }
  | .restart => { s with store := s.store.restart }

/-- The ledger is in order, and both the maps and the file remember it. -/
structure FileRun.Sound (s : FileRun) : Prop where
  valid : s.ledger.Valid
  data : s.ledger.Covers s.store.data
  file : s.ledger.Covers s.store.file

namespace FileRun.Sound

open Ledger SessionStore

variable {s : FileRun}

/-- What holds of the maps before and after a write holds of the file after it. -/
theorem saved {α : Type} {l : Ledger} {store : SessionStore} {a : α} {writes : Bool}
    (hv : l.Valid) (hdata : l.Covers store.data) (hfile : l.Covers store.file) :
    FileRun.Sound { store := (save store writes a).2, ledger := l } := by
  rcases save_cases store writes a with h | h
  · rw [h]
    exact ⟨hv, hdata, hdata⟩
  · rw [h]
    exact ⟨hv, hdata, hfile⟩

theorem createAuthSession (h : s.Sound) (session : AuthSession) (writes : Bool) :
    (fileStep s (.createAuthSession session writes)).Sound := by
  unfold fileStep SessionStore.createAuthSession
  dsimp only
  by_cases hmissing : session.offerID = "" ∨ session.state = "" ∨ session.did = ""
  · rw [if_pos hmissing, if_pos hmissing]
    exact h
  · rw [if_neg hmissing, if_neg hmissing]
    refine saved (h.valid.openTicket _) ?_ (h.file.openTicket h.valid _ (fun _ _ => rfl) rfl)
    refine h.data.openTicket h.valid _ (fun t ht => ?_) rfl
    exact (SessionData.used_insertAuth ..).trans (if_neg ht)

theorem storeVerifiedSession (h : s.Sound) (session : VerifiedSession) (writes : Bool) :
    (fileStep s (.storeVerifiedSession session writes)).Sound := by
  unfold fileStep SessionStore.storeVerifiedSession
  dsimp only
  by_cases hmissing : session.offerID = "" ∨ session.did = "" ∨ session.subjectCommitment = ""
  · rw [if_pos hmissing, if_pos hmissing]
    exact h
  · rw [if_neg hmissing, if_neg hmissing]
    refine saved (h.valid.openTicket _) ?_ (h.file.openTicket h.valid _ (fun _ _ => rfl) rfl)
    refine h.data.openTicket h.valid _ (fun t ht => ?_) rfl
    exact (SessionData.used_insertVerified ..).trans (if_neg ht)

theorem tick (h : s.Sound) (now : Instant) :
    FileRun.Sound { s with ledger := s.ledger.tick now } :=
  ⟨h.valid.tick now, h.data.tick now, h.file.tick now⟩

theorem expired (h : s.Sound) {r : String} {now : Instant}
    (hfree : s.store.replayed r now = false) :
    (s.ledger.tick now).Expired r :=
  (h.data.tick now).expired (le_max_right _ _) hfree

theorem consumeAuthState (h : s.Sound) (state replayID : String) (now : Instant) (writes : Bool) :
    (fileStep s (.consumeAuthState state replayID now writes)).Sound := by
  have ht := h.tick now
  unfold fileStep
  dsimp only
  rcases consumeAuthState_cases state replayID now writes s.store with
    ⟨e, heq⟩ | ⟨session, hrow, hfree, hreplay, heq⟩
  · rw [heq]
    exact ht
  rw [heq]
  have hexp : replayKey state replayID ≠ "" →
    (s.ledger.tick now).Expired (replayKey state replayID) :=
    fun hne => h.expired (hreplay hne)
  -- the maps with the session marked, then also with the replay id
  have hmarked : (s.ledger.tick now).Covers (s.store.data.markAuth state session) := by
    refine ht.data.forget (fun t hused => ?_) fun r e hre => .inr hre
    rw [SessionData.used_markAuth] at hused
    split at hused
    · cases hused
    · exact hused
  have hdata : ({ s.store.data with
      authSessions := s.store.data.authSessions.insert state { session with consumed := true }
      replayIDs := if replayKey state replayID = "" then s.store.data.replayIDs
        else s.store.data.replayIDs.insert (replayKey state replayID) session.expiresAt } :
      SessionData) = (s.store.data.markAuth state session).markReplay (replayKey state replayID)
        session.expiresAt := by
    unfold SessionData.markReplay SessionData.markAuth
    split <;> rfl
  rw [hdata]
  rcases save_cases { s.store with
      data := (s.store.data.markAuth state session).markReplay (replayKey state replayID)
        session.expiresAt } writes { session with consumed := true } with hok | hno
  · -- the session is consumed, in the maps and in the file
    rw [hok]
    have hnew : (Ticket.state state, (s.ledger.tick now).opened (.state state)) ∉
        (s.ledger.tick now).consumed := by
      intro hmem
      refine ht.data.tickets _ hmem ?_
      show (s.store.data.authSessions.lookup state).map (·.consumed) = some false
      rw [hrow, Option.map_some, hfree]
    have hcovers :=
      (hmarked.consume (t := .state state) (n := (s.ledger.tick now).opened (.state state))
      fun _ hused => by
        rw [SessionData.used_markAuth, if_pos rfl] at hused
        cases hused).acceptReplay hexp session.expiresAt
    exact ⟨(ht.valid.consume hnew (le_refl _)).acceptReplay hexp _, hcovers, hcovers⟩
  · -- the maps have marked the session, the file has not
    rw [hno]
    exact ⟨ht.valid, hmarked.markReplay hexp _, ht.file⟩

theorem markReplayIDConsumed (h : s.Sound) (replayID : String) (expiresAt now : Instant)
    (writes : Bool) : (fileStep s (.markReplayIDConsumed replayID expiresAt now writes)).Sound := by
  have ht := h.tick now
  unfold fileStep SessionStore.markReplayIDConsumed
  dsimp only
  by_cases hempty : replayID = ""
  · rw [if_pos hempty]
    exact ht
  rw [if_neg hempty]
  by_cases hreplayed : s.store.replayed replayID now = true
  · rw [if_pos hreplayed]
    exact ht
  rw [if_neg hreplayed]
  have hexp : replayID ≠ "" → (s.ledger.tick now).Expired replayID :=
    fun _ => h.expired (Bool.eq_false_iff.2 hreplayed)
  have hdata : ({ s.store.data with
      replayIDs := s.store.data.replayIDs.insert replayID expiresAt } : SessionData) =
      s.store.data.markReplay replayID expiresAt := by
    rw [SessionData.markReplay, if_neg hempty]
  rw [hdata]
  rcases save_cases { s.store with data := s.store.data.markReplay replayID expiresAt } writes ()
    with hok | hno
  · rw [hok]
    have hcovers := ht.data.acceptReplay hexp expiresAt
    exact ⟨ht.valid.acceptReplay hexp _, hcovers, hcovers⟩
  · rw [hno]
    exact ⟨ht.valid, ht.data.markReplay hexp _, ht.file⟩

theorem consumeVerifiedSession (h : s.Sound) (offerID : String) (now : Instant) (writes : Bool) :
    (fileStep s (.consumeVerifiedSession offerID now writes)).Sound := by
  have ht := h.tick now
  unfold fileStep
  dsimp only
  rcases consumeVerifiedSession_cases offerID now writes s.store with
    ⟨e, heq⟩ | ⟨session, hrow, hfree, heq⟩
  · rw [heq]
    exact ht
  rw [heq]
  have hmarked : (s.ledger.tick now).Covers (s.store.data.markVerified offerID session) := by
    refine ht.data.forget (fun t hused => ?_) fun r e hre => .inr hre
    rw [SessionData.used_markVerified] at hused
    split at hused
    · cases hused
    · exact hused
  change FileRun.Sound
    (match save { s.store with data := s.store.data.markVerified offerID session }
    writes { session with consumed := true } with
    | (.ok _, store) => _
    | (.error _, store) => _)
  rcases save_cases { s.store with data := s.store.data.markVerified offerID session } writes
      { session with consumed := true } with hok | hno
  · rw [hok]
    have hnew : (Ticket.offer offerID, (s.ledger.tick now).opened (.offer offerID)) ∉
        (s.ledger.tick now).consumed := by
      intro hmem
      refine ht.data.tickets _ hmem ?_
      show (s.store.data.verifiedSessions.lookup offerID).map (·.consumed) = some false
      rw [hrow, Option.map_some, hfree]
    have hcovers := hmarked.consume (t := .offer offerID)
      (n := (s.ledger.tick now).opened (.offer offerID)) fun _ hused => by
        rw [SessionData.used_markVerified, if_pos rfl] at hused
        cases hused
    exact ⟨ht.valid.consume hnew (le_refl _), hcovers, hcovers⟩
  · rw [hno]
    exact ⟨ht.valid, hmarked, ht.file⟩

theorem cleanupExpired (h : s.Sound) (retention now : Instant) (writes : Bool) :
    (fileStep s (.cleanupExpired retention now writes)).Sound := by
  have ht := h.tick now
  refine saved ht.valid
    (ht.data.forget (fun t => SessionData.used_cleaned _) fun r e hre => ?_) ht.file
  rcases SessionData.replay_cleaned _ hre with hle | hkept
  · exact .inl (le_trans hle (le_max_right _ _))
  · exact .inr hkept

end FileRun.Sound

theorem fileStep_sound {s : FileRun} (h : s.Sound) (act : FileAct) : (fileStep s act).Sound := by
  cases act with
  | createAuthSession session writes => exact h.createAuthSession session writes
  | consumeAuthState state replayID now writes => exact h.consumeAuthState state replayID now writes
  | markReplayIDConsumed replayID expiresAt now writes =>
    exact h.markReplayIDConsumed replayID expiresAt now writes
  | storeVerifiedSession session writes => exact h.storeVerifiedSession session writes
  | consumeVerifiedSession offerID now writes => exact h.consumeVerifiedSession offerID now writes
  | cleanupExpired retention now writes => exact h.cleanupExpired retention now writes
  | restart => exact ⟨h.valid, h.file, h.file⟩

/-- **The store in a file is sound along every run**: every session is consumed at most once,
and no replay id is accepted twice before its expiry. -/
theorem file_sound (start : Instant) (acts : List FileAct) :
    (exec fileStep { ledger := { clock := start } } acts).Sound :=
  exec_invariant (I := FileRun.Sound) (fun _ act h => fileStep_sound h act)
    ⟨Ledger.valid_new start, Ledger.covers_new start _, Ledger.covers_new start _⟩ acts

end Ansible.Vc
