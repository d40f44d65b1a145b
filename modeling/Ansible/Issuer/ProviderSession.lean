import Ansible.Lib.Assoc

/-!
# The sessions of identity providers

A ceremony with a provider spans several requests.  A session is opened with a
random state, consumed once when the provider answers, and leaves a verified
session, which is consumed once when the credential is issued.  The sessions are
kept in memory and saved to a file on every write; a save that fails leaves the
write in memory.

## Main definitions

* `AuthSession`, `VerifiedSession` — the sessions; `Sighting` — what the run has seen of
  the person.
* `SessionStore` — the sessions in memory, and those of the file.
* `SessionStore.consumeAuthState`, `SessionStore.consumeVerifiedSession`, … — the operations.

## Main results

* `SessionStore.all_consumeAuthState`, `SessionStore.all_consumeVerifiedSession`, … — every
  operation keeps what holds of every session.
-/

namespace Ansible.Vc

/-- An instant, in nanoseconds. -/
abbrev Instant := ℤ

/-- What a commitment commits to: a value in a context. -/
structure Person where
  assuranceContext : String
  subjectValue : String
  deriving DecidableEq, Repr

/-- What the run has seen when the commitments of a person were about to be looked up: the
commitments, and the ids of the credentials that the store held.  No code reads it. -/
structure Sighting where
  person : Person
  commitments : List String
  known : List String
  deriving DecidableEq, Repr

structure AuthSession where
  offerID : String
  did : String
  email : String := ""
  state : String
  subjectCommitment : String := ""
  expiresAt : Instant
  consumed : Bool := false
  /-- Of the commitment, when the session has one. -/
  sighting : Option Sighting := none
  deriving DecidableEq, Repr

structure VerifiedSession where
  offerID : String
  did : String
  email : String := ""
  subjectCommitment : String
  verifiedAt : Instant
  expiresAt : Instant
  consumed : Bool := false
  sighting : Sighting
  deriving DecidableEq, Repr

/-- What the store of sessions refuses with. -/
inductive SessionError where
  | replay
  | stateNotFound
  | expiredSessionState
  | verifiedNotFound
  | missingField
  /-- The file could not be written. -/
  | persist
  deriving DecidableEq, Repr

/-- The maps of a store of sessions. -/
structure SessionData where
  /-- By state. -/
  authSessions : Assoc String AuthSession := ∅
  /-- By offer. -/
  verifiedSessions : Assoc String VerifiedSession := ∅
  replayIDs : Assoc String Instant := ∅

/-- The maps in memory, and what the file holds. -/
structure SessionStore where
  data : SessionData := {}
  file : SessionData := {}

namespace SessionStore

/-- The write of a file, which may fail; what is in memory stays. -/
def save {α : Type} (s : SessionStore) (writes : Bool) (a : α) :
    Except SessionError α × SessionStore :=
  if writes then (.ok a, { s with file := s.data }) else (.error .persist, s)

def createAuthSession (session : AuthSession) (writes : Bool) (s : SessionStore) :
    Except SessionError Unit × SessionStore :=
  if session.offerID = "" ∨ session.state = "" ∨ session.did = "" then (.error .missingField, s)
  else save { s with
    data := { s.data with authSessions := s.data.authSessions.insert session.state session } }
    writes ()

/-- The state doubles as the id that must not be replayed. -/
def replayKey (state replayID : String) : String := if replayID = "" then state else replayID

def consumeAuthState (state replayID : String) (now : Instant) (writes : Bool)
    (s : SessionStore) : Except SessionError AuthSession × SessionStore :=
  let replayID := replayKey state replayID
  if replayID ≠ "" ∧ (s.data.replayIDs.lookup replayID).any (decide <| now < ·) then
    (.error .replay, s)
  else match s.data.authSessions.lookup state with
    | none => (.error .stateNotFound, s)
    | some session =>
      if session.consumed then (.error .replay, s)
      else if ¬ now < session.expiresAt then (.error .expiredSessionState, s)
      else
        let session := { session with consumed := true }
        save { s with
          data := { s.data with
            authSessions := s.data.authSessions.insert state session
            replayIDs := if replayID = "" then s.data.replayIDs
              else s.data.replayIDs.insert replayID session.expiresAt } }
          writes session

def storeVerifiedSession (session : VerifiedSession) (writes : Bool) (s : SessionStore) :
    Except SessionError Unit × SessionStore :=
  if session.offerID = "" ∨ session.did = "" ∨ session.subjectCommitment = "" then
    (.error .missingField, s)
  else save { s with
    data := { s.data with
      verifiedSessions := s.data.verifiedSessions.insert session.offerID session } } writes ()

/-- A verified session that is neither consumed nor expired. -/
def getVerifiedSession (offerID : String) (now : Instant) (s : SessionStore) :
    Except SessionError VerifiedSession :=
  match s.data.verifiedSessions.lookup offerID with
  | none => .error .verifiedNotFound
  | some session =>
    if session.consumed ∨ ¬ now < session.expiresAt then .error .verifiedNotFound else .ok session

/-- A session of the offer: the one that a walk through the map, in any order, meets first. -/
def getAuthSessionByOfferID (offerID : String) (now : Instant) (pick : ℕ) (s : SessionStore) :
    Except SessionError AuthSession :=
  let sessions := s.data.authSessions.values.filter (·.offerID == offerID)
  match sessions[pick % sessions.length]? with
  | none => .error .stateNotFound
  | some session => if ¬ now < session.expiresAt then .error .expiredSessionState else .ok session

def consumeVerifiedSession (offerID : String) (now : Instant) (writes : Bool)
    (s : SessionStore) : Except SessionError VerifiedSession × SessionStore :=
  match s.getVerifiedSession offerID now with
  | .error e => (.error e, s)
  | .ok session =>
    let session := { session with consumed := true }
    save { s with
      data := { s.data with
        verifiedSessions := s.data.verifiedSessions.insert offerID session } } writes session

/-- What a restart finds: the sessions of the file, less those that expired before the
retention began, when the file can be written. -/
def reload (cutoff : Instant) (writes : Bool) (s : SessionStore) : SessionStore :=
  let data : SessionData :=
    { authSessions := s.file.authSessions.filterValues (decide <| cutoff < ·.expiresAt)
      verifiedSessions := s.file.verifiedSessions.filterValues (decide <| cutoff < ·.expiresAt)
      replayIDs := s.file.replayIDs.filterValues (decide <| cutoff < ·) }
  { data, file := if writes then data else s.file }

end SessionStore

/-! ### What every operation keeps -/

/-- Every session of the maps is of the kind. -/
structure SessionData.All (P : AuthSession → Prop) (Q : VerifiedSession → Prop)
    (d : SessionData) : Prop where
  auth : ∀ state a, d.authSessions.lookup state = some a → P a
  verified : ∀ offerID v, d.verifiedSessions.lookup offerID = some v → Q v

namespace SessionStore

/-- Every session, in memory and in the file, is of the kind. -/
structure All (P : AuthSession → Prop) (Q : VerifiedSession → Prop) (s : SessionStore) : Prop where
  data : s.data.All P Q
  file : s.file.All P Q

variable {P P' : AuthSession → Prop} {Q Q' : VerifiedSession → Prop} {s : SessionStore}

theorem All.mono (h : s.All P Q) (hP : ∀ a, P a → P' a) (hQ : ∀ v, Q v → Q' v) : s.All P' Q' where
  data := ⟨fun k a ha => hP a (h.data.auth k a ha), fun k v hv => hQ v (h.data.verified k v hv)⟩
  file := ⟨fun k a ha => hP a (h.file.auth k a ha), fun k v hv => hQ v (h.file.verified k v hv)⟩

theorem all_save {α : Type} {writes : Bool} {a : α} (hdata : s.data.All P Q)
    (hfile : s.file.All P Q) :
    (save s writes a).2.All P Q := by
  unfold save
  split
  · exact ⟨hdata, hdata⟩
  · exact ⟨hdata, hfile⟩

theorem save_eq_ok {α : Type} {writes : Bool} {a b : α}
    (h : (save s writes a).1 = .ok b) : a = b := by
  unfold save at h
  split at h
  · exact Except.ok.inj h
  · cases h

theorem insert_auth (h : s.data.All P Q) {state : String} {session : AuthSession}
    {replayIDs : Assoc String Instant} (hsession : P session) :
    SessionData.All P Q { s.data with
      authSessions := s.data.authSessions.insert state session, replayIDs } where
  auth := by
    intro k a ha
    rw [Assoc.lookup_insert'] at ha
    split at ha
    · exact Option.some.inj ha ▸ hsession
    · exact h.auth k a ha
  verified := h.verified

theorem insert_verified (h : s.data.All P Q) {offerID : String} {session : VerifiedSession}
    (hsession : Q session) :
    SessionData.All P Q { s.data with
      verifiedSessions := s.data.verifiedSessions.insert offerID session } where
  auth := h.auth
  verified := by
    intro k v hv
    rw [Assoc.lookup_insert'] at hv
    split at hv
    · exact Option.some.inj hv ▸ hsession
    · exact h.verified k v hv

theorem all_createAuthSession (h : s.All P Q) {session : AuthSession} (hsession : P session)
    (writes : Bool) :
    (s.createAuthSession session writes).2.All P Q := by
  unfold createAuthSession
  split
  · exact h
  · exact all_save (insert_auth h.data hsession) h.file

/-- A session is marked as consumed; what holds of it may not depend on the mark. -/
theorem all_consumeAuthState (hP : ∀ a, P a → P { a with consumed := true }) (h : s.All P Q)
    (state replayID : String) (now : Instant) (writes : Bool) :
    (s.consumeAuthState state replayID now writes).2.All P Q ∧
      ∀ a, (s.consumeAuthState state replayID now writes).1 = .ok a → P a := by
  unfold consumeAuthState
  dsimp only
  split
  · exact ⟨h, fun _ ha => nomatch ha⟩
  split
  · exact ⟨h, fun _ ha => nomatch ha⟩
  rename_i session hsession
  split
  · exact ⟨h, fun _ ha => nomatch ha⟩
  split
  · exact ⟨h, fun _ ha => nomatch ha⟩
  have hconsumed : P { session with consumed := true } := hP session (h.data.auth _ _ hsession)
  refine ⟨all_save (insert_auth h.data hconsumed) h.file, ?_⟩
  intro a ha
  exact save_eq_ok ha ▸ hconsumed

theorem all_storeVerifiedSession (h : s.All P Q) {session : VerifiedSession}
    (hsession : Q session) (writes : Bool) : (s.storeVerifiedSession session writes).2.All P Q := by
  unfold storeVerifiedSession
  split
  · exact h
  · exact all_save (insert_verified h.data hsession) h.file

theorem all_consumeVerifiedSession (hQ : ∀ v, Q v → Q { v with consumed := true })
    (h : s.All P Q) (offerID : String) (now : Instant) (writes : Bool) :
    (s.consumeVerifiedSession offerID now writes).2.All P Q ∧
      ∀ v, (s.consumeVerifiedSession offerID now writes).1 = .ok v → Q v := by
  unfold consumeVerifiedSession
  split
  · exact ⟨h, fun _ hv => nomatch hv⟩
  rename_i session hsession
  have hconsumed : Q { session with consumed := true } := by
    unfold getVerifiedSession at hsession
    split at hsession
    · cases hsession
    rename_i v hv
    split at hsession
    · cases hsession
    · obtain rfl := Except.ok.inj hsession
      exact hQ v (h.data.verified _ _ hv)
  refine ⟨all_save (insert_verified h.data hconsumed) h.file, ?_⟩
  intro v hv
  exact save_eq_ok hv ▸ hconsumed

theorem all_reload (h : s.All P Q) (cutoff : Instant) (writes : Bool) :
    (s.reload cutoff writes).All P Q := by
  have hdata : (s.reload cutoff writes).data.All P Q :=
    ⟨fun k a ha => h.file.auth k a (Assoc.lookup_of_filterValues ha),
      fun k v hv => h.file.verified k v (Assoc.lookup_of_filterValues hv)⟩
  refine ⟨hdata, ?_⟩
  unfold reload
  dsimp only
  split
  · exact hdata
  · exact h.file

end SessionStore

end Ansible.Vc
