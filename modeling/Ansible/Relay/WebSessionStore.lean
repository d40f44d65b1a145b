import Ansible.Lib.Checks
import Ansible.Relay.SigVerifier

/-!
# Challenges and sessions of web browsers

A browser asks for a challenge, which the app of a user approves or rejects; an approval mints a
session.  One process keeps both in memory, serves the requests one after the other, and sweeps
old entries on a timer.

## Main definitions

* `WebChallenge`, `WebSession` — the entries; tokens are drawn at random and stand for the number
  of the draw.
* `WebSessionStore.approveChallenge`, `rejectChallenge`, `pollChallenge` — the moves of a
  challenge.
* `WebSessionStore.enforceActiveSessionCap`, `enforceDeviceApprovalCooldown` — the limits.
* `WebSessionStore.sweep` — the removal of old entries.
-/

namespace Ansible

inductive ChallengeStatus
  | pending
  | approved
  | rejected
  | expired
  deriving DecidableEq, Repr

structure WebChallenge where
  challengeId : ℕ
  webOrigin : String
  relayOrigin : String
  audience : String
  scopes : List String
  status : ChallengeStatus
  createdAt : Time
  expiresAt : Time
  approvedSessionToken : Option ℕ

structure WebSession where
  sessionToken : ℕ
  subjectDid : String
  approvingDeviceId : String
  webOrigin : String
  relayOrigin : String
  audience : String
  scopes : List String
  expiresAt : Time
  createdAt : Time
  revokedAt : Option Time

/-- The state of the process; `drawn` counts the tokens. -/
structure WebSessionStore where
  challenges : List WebChallenge
  sessions : List WebSession
  drawn : ℕ

structure ChallengeAttrs where
  webOrigin : String
  relayOrigin : String
  audience : Option String
  scopes : List String
  ttlSeconds : Option ℤ

/-- What an approval that is signed and in order asks for. -/
structure ApprovalAttrs where
  subjectDid : String
  approvingDeviceId : String
  scopes : List String
  expiresAt : Time

inductive WebSessionError
  | notFound
  | expired
  | consumed
  | rejected
  | revoked
  | missingApprovingDeviceId
  | tooManyActiveSessions
  | approvalRateLimited
  | scopeNotAllowed
  deriving DecidableEq, Repr

namespace WebSessionStore

def empty : WebSessionStore := ⟨[], [], 0⟩

def maxActiveSessionsPerDid : ℕ := 5

def maxApprovalsPerDevicePerHour : ℕ := 3

def approvalWindow : Time := seconds 3600

def terminalRetention : Time := seconds 3600

/-! ### Entries -/

def challenge (id : ℕ) (s : WebSessionStore) : Option WebChallenge :=
  s.challenges.find? (·.challengeId == id)

def session (token : ℕ) (s : WebSessionStore) : Option WebSession :=
  s.sessions.find? (·.sessionToken == token)

/-- `put_in(state, [:challenges, id], challenge)` for one that is there -/
def putChallenge (c : WebChallenge) (s : WebSessionStore) : WebSessionStore :=
  { s with challenges := s.challenges.map fun x => if x.challengeId = c.challengeId then c else x }

def putSession (x : WebSession) (s : WebSessionStore) : WebSessionStore :=
  { s with sessions := s.sessions.map fun y => if y.sessionToken = x.sessionToken then x else y }

/-- The instant has passed. -/
def isExpired (now expiresAt : Time) : Bool := decide (expiresAt ≤ now)

def isActive (now : Time) (x : WebSession) : Bool :=
    x.revokedAt.isNone && !isExpired now x.expiresAt

/-! ### Challenges -/

def issueChallenge (now : Time) (attrs : ChallengeAttrs) (s : WebSessionStore) :
    WebChallenge × WebSessionStore :=
  let c : WebChallenge :=
    { challengeId := s.drawn
      webOrigin := attrs.webOrigin
      relayOrigin := attrs.relayOrigin
      audience := attrs.audience.getD attrs.relayOrigin
      scopes := attrs.scopes
      status := .pending
      createdAt := now
      expiresAt := now + seconds (attrs.ttlSeconds.getD 300)
      approvedSessionToken := none }
  (c, { s with challenges := s.challenges ++ [c], drawn := s.drawn + 1 })

def getPendingChallenge (now : Time) (id : ℕ) (s : WebSessionStore) :
    Except WebSessionError WebChallenge :=
  match s.challenge id with
  | none => .error .notFound
  | some c =>
    match c.status with
    | .pending => if isExpired now c.expiresAt then .error .expired else .ok c
    | .approved => .error .consumed
    | .rejected => .error .rejected
    | .expired => .error .expired

/-- A pending challenge whose time is over becomes an expired one when it is polled. -/
def pollChallenge (now : Time) (id : ℕ) (s : WebSessionStore) :
    Except WebSessionError WebChallenge × WebSessionStore :=
  match s.challenge id with
  | none => (.error .notFound, s)
  | some c =>
    if c.status = .pending ∧ isExpired now c.expiresAt = true then
      (.ok { c with status := .expired }, s.putChallenge { c with status := .expired })
    else (.ok c, s)

def rejectChallenge (id : ℕ) (s : WebSessionStore) :
    Except WebSessionError WebChallenge × WebSessionStore :=
  match s.challenge id with
  | none => (.error .notFound, s)
  | some c => (.ok { c with status := .rejected }, s.putChallenge { c with status := .rejected })

/-! ### Limits -/

def activeSessions (now : Time) (did : String) (s : WebSessionStore) : List WebSession :=
  s.sessions.filter fun x => x.subjectDid == did && isActive now x

def enforceActiveSessionCap (now : Time) (did : String) (s : WebSessionStore) :
    Except WebSessionError Unit :=
  if maxActiveSessionsPerDid ≤ (s.activeSessions now did).length
  then .error .tooManyActiveSessions else .ok ()

def recentSessions (now : Time) (did deviceId : String) (s : WebSessionStore) : List WebSession :=
  s.sessions.filter fun x => x.subjectDid == did && x.approvingDeviceId == deviceId &&
    decide (now - approvalWindow < x.createdAt)

def enforceDeviceApprovalCooldown (now : Time) (did deviceId : String) (s : WebSessionStore) :
    Except WebSessionError Unit :=
  if maxApprovalsPerDevicePerHour ≤ (s.recentSessions now did deviceId).length
  then .error .approvalRateLimited else .ok ()

/-! ### Sessions -/

/-- The checks of an approval. -/
def checkApproval (now : Time) (id : ℕ) (attrs : ApprovalAttrs) (s : WebSessionStore) :
    Except WebSessionError WebChallenge := do
  let c ← getPendingChallenge now id s
  ensure (attrs.approvingDeviceId != "") .missingApprovingDeviceId
  enforceActiveSessionCap now attrs.subjectDid s
  enforceDeviceApprovalCooldown now attrs.subjectDid attrs.approvingDeviceId s
  ensure (attrs.scopes.all (c.scopes.contains ·)) .scopeNotAllowed
  return c

/-- The session that an approval mints. -/
def mint (now : Time) (c : WebChallenge) (attrs : ApprovalAttrs) (token : ℕ) : WebSession where
  sessionToken := token
  subjectDid := attrs.subjectDid
  approvingDeviceId := attrs.approvingDeviceId
  webOrigin := c.webOrigin
  relayOrigin := c.relayOrigin
  audience := c.audience
  scopes := attrs.scopes
  expiresAt := attrs.expiresAt
  createdAt := now
  revokedAt := none

def approveChallenge (now : Time) (id : ℕ) (attrs : ApprovalAttrs) (s : WebSessionStore) :
    Except WebSessionError WebSession × WebSessionStore :=
  match checkApproval now id attrs s with
  | .error e => (.error e, s)
  | .ok c =>
    let x := mint now c attrs s.drawn
    let t := s.putChallenge
      { c with status := .approved, approvedSessionToken := some x.sessionToken }
    (.ok x, { t with sessions := t.sessions ++ [x], drawn := t.drawn + 1 })

def getActiveSession (now : Time) (token : ℕ) (s : WebSessionStore) :
    Except WebSessionError WebSession :=
  match s.session token with
  | none => .error .notFound
  | some x =>
    if x.revokedAt ≠ none then .error .revoked
    else if isExpired now x.expiresAt then .error .expired
    else .ok x

/-- The exchange: a poll that finds the challenge approved comes with the session. -/
def exchange (now : Time) (id : ℕ) (s : WebSessionStore) :
    Except WebSessionError (WebChallenge × Option WebSession) × WebSessionStore :=
  match pollChallenge now id s with
  | (.error e, t) => (.error e, t)
  | (.ok c, t) =>
    if c.status = .approved then
      (.ok (c, c.approvedSessionToken.bind fun token => (getActiveSession now token t).toOption), t)
    else (.ok (c, none), t)

def revokeSession (now : Time) (token : ℕ) (s : WebSessionStore) :
    Except WebSessionError WebSession × WebSessionStore :=
  match s.session token with
  | none => (.error .notFound, s)
  | some x => (.ok { x with revokedAt := some now }, s.putSession { x with revokedAt := some now })

/-! ### Sweeps -/

def prunableChallenge (now cutoff : Time) (c : WebChallenge) : Bool :=
  let terminal := decide (c.status ≠ .pending)
  (terminal && decide (c.expiresAt < cutoff)) ||
    (!terminal && isExpired now c.expiresAt && decide (c.expiresAt < cutoff))

def prunableSession (now cutoff : Time) (x : WebSession) : Bool :=
  x.revokedAt.any (fun t => decide (t < cutoff)) ||
    (isExpired now x.expiresAt && decide (x.expiresAt < cutoff))

def sweep (now : Time) (s : WebSessionStore) : WebSessionStore :=
  let cutoff := now - terminalRetention
  { s with
    challenges := s.challenges.filter fun c => !prunableChallenge now cutoff c
    sessions := s.sessions.filter fun x => !prunableSession now cutoff x }

end WebSessionStore

end Ansible
