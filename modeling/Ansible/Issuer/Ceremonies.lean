import Ansible.Issuer.Issuance
import Ansible.Issuer.ProviderSession
import Ansible.Lib.Base

/-!
# Issuance ceremonies

A person enrols by one of three ceremonies: Mobile MOICA (start, status, issue), the
Taiwan digital identity (start, callback, issue), or a passport in one request.  The
handlers commit to the person under a secret pepper.  When the pepper is rotated, the
previous ones are kept, and the person is looked up under all of them while the
person's identifier is at hand; the session keeps one commitment only.

Every access to a store takes its lock by itself, so that the steps of several
requests interleave in any order, with revocations and with restarts that may bring
other peppers.

## Main definitions

* `PepperSet`, `computeAll` — the peppers, and the commitments to a person.
* `CallRequest`, `Call` — the requests, and how far a handler has come.
* `Desk`, `DeskEvent`, `Desk.step` — the issuer with its sessions, and what moves it on.
-/

namespace Ansible.Vc

/-! ### Commitments -/

/-- The hash functions of the runtime. -/
structure Primitives where
  sha256 : Binary → Binary
  /-- HMAC-SHA256 of a message under a key, in hexadecimal. -/
  hmac : String → String → String
  hmac_ne : ∀ key message, hmac key message ≠ ""

/-- The pepper under which commitments are written, and those that were. -/
structure PepperSet where
  primary : String
  previous : List String := []
  deriving DecidableEq, Repr

variable (M : Primitives)

def compute (pepper subjectValue assuranceContext : String) : String :=
  M.hmac pepper (assuranceContext ++ ":" ++ subjectValue)

/-- The commitment under the primary pepper, and those under the previous ones. -/
def computeAll (s : PepperSet) (subjectValue assuranceContext : String) : List String :=
  compute M s.primary subjectValue assuranceContext ::
    s.previous.map fun p => compute M p subjectValue assuranceContext

/-- `PersonhoodBindingTWNationalIDContext` -/
def twNationalIDContext : String := "tw_national_id_v1"

/-- `PersonhoodBindingPassportContext` -/
def passportContext : String := "passport_personhood_v1"

/-- The value that a passport's circuit computes of the national ID. -/
def twPersonBindingInput (nationalID : String) : String :=
  "0x00" ++ String.ofList
    (encode16 ((M.sha256 (bytes ("tris-aura:person-binding:tw:v1" ++ nationalID))).take 31))

/-! ### What handlers check of a request -/

def between (lo hi c : Char) : Bool := lo ≤ c && c ≤ hi

/-- What follows a prefix. -/
def after (pre : String) (s : String) : Option Text :=
  if (chars pre).isPrefixOf (chars s) then some ((chars s).drop (chars pre).length) else none

/-- `[a-z2-7]` -/
def isBase32Char (c : Char) : Bool := between 'a' 'z' c || between '2' '7' c

/-- `[1-9A-HJ-NP-Za-km-z]` -/
def isBase58Char (c : Char) : Bool :=
  between '1' '9' c || between 'A' 'H' c || between 'J' 'N' c || between 'P' 'Z' c ||
    between 'a' 'k' c || between 'm' 'z' c

/-- `[A-Za-z0-9]` -/
def isAlphanumChar (c : Char) : Bool := between 'A' 'Z' c || between 'a' 'z' c || between '0' '9' c

/-- `reDID` -/
def matchesDID (did : String) : Bool :=
  (after "did:plc:" did).any (fun t => t.all isBase32Char && 10 ≤ t.length) ||
    (after "did:elix:" did).any (fun t => t.all isBase32Char && t.length == 26) ||
    (after "did:key:z" did).any
      (fun t => t.all isBase58Char && 40 ≤ t.length && t.length ≤ 120) ||
    (after "did:web:" did).any
      (fun t => t.all (fun c => isAlphanumChar c || (chars "._%:-").contains c) && t != [])

/-- `^[^@\s]+@[^@\s]+\.[^@\s]+$` -/
def matchesEmail (email : String) : Bool :=
  match (chars email).dropWhile (· ≠ '@') with
  | [] => false
  | _ :: domain =>
    (chars email).head? != some '@' && !domain.contains '@' &&
      (chars email).all (fun c => !(chars " \t\n\x0c\r").contains c) &&
      (domain.drop 1).dropLast.contains '.'

/-- `^[A-Z]{3}$` -/
def matchesNationality (s : String) : Bool :=
  (chars s).length == 3 && (chars s).all (between 'A' 'Z')

/-- `^[A-Z][0-9]{9}$` -/
def matchesNationalID (s : String) : Bool :=
  match chars s with
  | [] => false
  | c :: digits => between 'A' 'Z' c && digits.length == 9 && digits.all (between '0' '9')

/-- `^[A-Za-z0-9:_-]{16,128}$` -/
def matchesPersonhoodHash (s : String) : Bool :=
  16 ≤ (chars s).length && (chars s).length ≤ 128 &&
    (chars s).all fun c => isAlphanumChar c || (chars ":_-").contains c

/-- `^0x[0-9a-f]{64}$` -/
def matchesBindingInput (s : String) : Bool :=
  (after "0x" s).any fun t => t.length == 64 && t.all fun c => between '0' '9' c ||
    between 'a' 'f' c

/-- A letter in upper case.  Of the letters outside ASCII, two have an upper case in it. -/
def upperChar (c : Char) : Char :=
  if c = 'ı' then 'I' else if c = 'ſ' then 'S' else c.toUpper

/-- A national ID, trimmed and in upper case. -/
def normalNationalID (s : String) : String :=
  let t := (chars s).dropWhile isWhiteSpace
  String.ofList ((t.reverse.dropWhile isWhiteSpace).reverse.map upperChar)

/-- What a request answers: a status with an error, or success. -/
abbrev Reply := Except (ℕ × String) String

/-- The first check that fails. -/
def refusal (checks : List (Bool × ℕ × String)) : Option (ℕ × String) :=
  (checks.find? fun c => !c.1).map Prod.snd

def didChecks (did : String) : List (Bool × ℕ × String) :=
  [(did != "", 422, "missing_field"), (matchesDID did, 422, "invalid_did")]

def emailChecks (email : String) : List (Bool × ℕ × String) :=
  [(email != "", 422, "missing_field"), (matchesEmail email, 422, "invalid_email")]

def requiredCheck (value : String) : Bool × ℕ × String := (value != "", 422, "missing_field")

/-! ### Requests and handlers -/

/-- What a provider asserts of a person, once its proof has been verified. -/
structure ProviderAssertion where
  state : String
  replayID : String
  providerSubject : String
  assuranceContext : String
  expiresAt : Instant
  deriving DecidableEq, Repr

/-- What a passport's proof binds, once it has been verified. -/
structure PassportBinding where
  personhoodBindingInput : String
  twPersonBindingInput : String
  passportNumberHash : String
  nationality : String
  ageOver18 : Bool
  deriving DecidableEq, Repr

/-- The value that a passport is committed to by. -/
def PassportBinding.input (b : PassportBinding) : String :=
  if b.personhoodBindingInput = "" then b.twPersonBindingInput else b.personhoodBindingInput

/-- The two providers with sessions. -/
inductive Flow where
  | mobileMoica
  | tw
  deriving DecidableEq, Repr

/-- A request of a ceremony.  What the verifiers of proofs find is part of it. -/
inductive CallRequest where
  | mobileMoicaStart (holderDID nationalID consentVersion consentCopyHash : String)
  | mobileMoicaStatus (offerID : String)
  | twStart (did email : String)
  | twCallback (proof : Except (ℕ × String) ProviderAssertion)
  | issue (flow : Flow) (did email offerID : String)
  /-- `challenge` and `consumed` say whether the challenge was found and could be consumed. -/
  | passportIssue (did nationality : String) (challenge : Bool)
      (proof : Except (ℕ × String) PassportBinding) (consumed : Bool)

/-- What the broker of Mobile MOICA answers. -/
inductive BrokerResult where
  | pending
  | refused (error : ℕ × String)
  | verified (replayID : String) (expiresAt : Option Instant)
  deriving DecidableEq, Repr

/-- What a step of a handler finds: the clock, the tokens that are drawn, the answers of the
broker, the order in which a map is walked, and whether a file can be written. -/
structure CallEnv where
  now : Instant
  offerID : Option String := none
  state : Option String := none
  brokerStart : Except (ℕ × String) Instant := .ok 0
  brokerVerify : BrokerResult := .pending
  pick : ℕ := 0
  writes : Bool := true

/-- How far a handler has come. -/
inductive Call where
  /-- The commitments that are still to be looked up before the session is opened. -/
  | startLookup (todo : List String) (session : AuthSession)
  | startBroker (session : AuthSession)
  | startSave (flow : Flow) (session : AuthSession)
  | statusVerified (offerID : String)
  | statusSession (offerID : String)
  | statusBroker (session : AuthSession)
  | statusConsume (state replayID : String) (expiresAt : Option Instant)
  | statusSave (session : VerifiedSession)
  | callbackConsume (assertion : ProviderAssertion)
  /-- The commitments that are still to be looked up before the session is verified. -/
  | callbackLookup (todo : List String) (session : VerifiedSession)
  | callbackSave (session : VerifiedSession)
  | issueConsume (flow : Flow) (did email offerID : String)
  /-- The commitments that are still to be looked up before the passport is issued. -/
  | passportLookup (todo : List String) (did storedPersonBinding passportNumberHash : String)
      (ageOver18 : Bool) (sighting : Sighting)
  /-- The issuer goes on with the request of this number. -/
  | issuing (q : ℕ)
  | replied (reply : Reply)
  /-- The process ended before the request did. -/
  | cut

/-! ### The issuer with its sessions -/

/-- What is configured. -/
structure Config where
  issuerURL : String
  mobileMoicaTTL : Instant
  twTTL : Instant

/-- The credential store with the requests to it, the sessions, and the requests in the order
in which they arrived.  `sightings` and `bound` are what the run has seen: of the person of
each request to the issuer, and whose a humanity credential is.  No code reads them. -/
structure Desk where
  watched : Watched
  peppers : PepperSet
  mobileMoica : SessionStore := {}
  tw : SessionStore := {}
  calls : List Call := []
  sightings : List Sighting := []
  bound : String → Option Person := fun _ => none

namespace Desk

def store (d : Desk) : Store := d.watched.issuer.store

/-- What is seen of a person whose commitments are about to be looked up. -/
def sight (d : Desk) (person : Person) (commitments : List String) : Sighting :=
  { person, commitments, known := d.store.ids }

def sessions (d : Desk) : Flow → SessionStore
  | .mobileMoica => d.mobileMoica
  | .tw => d.tw

def setSessions (d : Desk) (s : SessionStore) : Flow → Desk
  | .mobileMoica => { d with mobileMoica := s }
  | .tw => { d with tw := s }

end Desk

variable (cfg : Config)

/-- What a handler does before it looks anything up. -/
def CallRequest.begin (env : CallEnv) (d : Desk) : CallRequest → Call
  | .mobileMoicaStart holderDID nationalID consentVersion consentCopyHash =>
      let nationalID := normalNationalID nationalID
      match refusal (didChecks holderDID ++
          [(matchesNationalID nationalID, 422, "invalid_national_id"),
            requiredCheck consentVersion, requiredCheck consentCopyHash]), env.offerID,
              env.state with
      | some e, _, _ => .replied (.error e)
      | none, some offerID, some state =>
          let input := twPersonBindingInput M nationalID
          let comms := computeAll M d.peppers input twNationalIDContext
          .startLookup comms
            { offerID, did := holderDID, state, subjectCommitment := comms.headD ""
              expiresAt := env.now + cfg.mobileMoicaTTL
              sighting := some (d.sight ⟨twNationalIDContext, input⟩ comms) }
      | none, _, _ => .replied (.error (500, "random_error"))
  | .mobileMoicaStatus offerID =>
      if offerID = "" then .replied (.error (400, "missing_id")) else .statusVerified offerID
  | .twStart did email =>
      match refusal (didChecks did ++ emailChecks email), env.offerID, env.state with
      | some e, _, _ => .replied (.error e)
      | none, some offerID, some state =>
          .startSave .tw { offerID, did, email, state, expiresAt := env.now + cfg.twTTL }
      | none, _, _ => .replied (.error (500, "random_error"))
  | .twCallback (.error e) => .replied (.error e)
  | .twCallback (.ok assertion) => .callbackConsume assertion
  | .issue flow did email offerID =>
      let emails := match flow with
        | .mobileMoica => []
        | .tw => emailChecks email
      match refusal (didChecks did ++ emails ++ [requiredCheck offerID]) with
      | some e => .replied (.error e)
      | none => .issueConsume flow did email offerID
  | .passportIssue did nationality challenge proof consumed =>
      match refusal ((challenge, 401, "invalid_passport_challenge") :: didChecks did ++
          [(matchesNationality nationality, 422, "invalid_nationality")]), proof with
      | some e, _ => .replied (.error e)
      | none, .error e => .replied (.error e)
      | none, .ok binding =>
        let input := binding.input
        if ¬ matchesBindingInput input ∨ ¬ matchesPersonhoodHash binding.passportNumberHash ∨
            binding.nationality ≠ nationality then .replied (.error (401, "invalid_passport_proof"))
        else if ¬ consumed then .replied (.error (401, "invalid_passport_challenge"))
        else
          let personBindings := computeAll M d.peppers input passportContext
          if binding.nationality = "TWN" then
            -- the former domain is checked as well, and the commitment in it is stored
            let legacyTWBindings := computeAll M d.peppers input twNationalIDContext
            let personBindings := personBindings ++ legacyTWBindings
            .passportLookup personBindings did (legacyTWBindings.headD "")
              binding.passportNumberHash binding.ageOver18
              (d.sight ⟨twNationalIDContext, input⟩ personBindings)
          else
            .passportLookup personBindings did (personBindings.headD "")
              binding.passportNumberHash binding.ageOver18
              (d.sight ⟨passportContext, input⟩ personBindings)

/-- The earlier of two instants, when there is a second. -/
def earlier (a : Instant) : Option Instant → Instant
  | none => a
  | some b => if b < a then b else a

/-- The status and the error of a session that could not be consumed. -/
def sessionReply : SessionError → ℕ × String
  | .replay => (409, "callback_replay")
  | .stateNotFound => (401, "state_mismatch")
  | .expiredSessionState => (401, "expired_session")
  | _ => (500, "provider_session_error")

/-- Whether the session is not the caller's. -/
def mismatch (flow : Flow) (did email : String) (session : VerifiedSession) : Bool :=
  match flow with
  | .mobileMoica => session.did != did
  | .tw => session.did != did || session.email != email

/-- The request to the issuer that a verified session leads to. -/
def requestOf (flow : Flow) (did : String) (session : VerifiedSession) : Request :=
  match flow with
  | .mobileMoica => .issueMobileMoicaRP did [session.subjectCommitment]
  | .tw => .issue did [session.subjectCommitment]

/-- The lookup of one commitment, or of none. -/
def lookUp (s : Store) (duplicate : String) (onward : List String → Call) (finish : Call) :
    List String → Call
  | [] => finish
  | c :: todo =>
      if c = "" then onward todo
      else match s.checkDuplicate c with
        | .ok () => onward todo
        | .error _ => .replied (.error (409, duplicate))

/-- The issuer takes a request over. -/
def Desk.handOver (d : Desk) (r : Request) (sighting : Sighting) : Call × Desk :=
  (.issuing d.watched.issuer.requests.length,
    { d with
      watched := watch cfg.issuerURL d.watched (.request r)
      sightings := d.sightings ++ [sighting] })

/-- One step of a handler. -/
def Call.next (env : CallEnv) (d : Desk) : Call → Call × Desk
  | .startLookup todo session =>
      (lookUp d.store "duplicate_active_credential" (.startLookup · session)
        (.startBroker session) todo, d)
  | .startBroker session =>
      match env.brokerStart with
      | .error e => (.replied (.error e), d)
      | .ok expiresAt => (.startSave .mobileMoica { session with expiresAt }, d)
  | .startSave flow session =>
      match (d.sessions flow).createAuthSession session env.writes with
      | (.error _, s) => (.replied (.error (500, "provider_session_error")), d.setSessions s flow)
      | (.ok (), s) => (.replied (.ok session.offerID), d.setSessions s flow)
  | .statusVerified offerID =>
      match d.mobileMoica.getVerifiedSession offerID env.now with
      | .ok _ => (.replied (.ok "verified"), d)
      | .error _ => (.statusSession offerID, d)
  | .statusSession offerID =>
      match d.mobileMoica.getAuthSessionByOfferID offerID env.now env.pick with
      | .error _ => (.replied (.ok "not_found"), d)
      | .ok session => (.statusBroker session, d)
  | .statusBroker session =>
      match env.brokerVerify with
      | .pending => (.replied (.ok "pending"), d)
      | .refused e => (.replied (.error e), d)
      | .verified replayID expiresAt => (.statusConsume session.state replayID expiresAt, d)
  | .statusConsume state replayID expiresAt =>
      match d.mobileMoica.consumeAuthState state replayID env.now env.writes with
      | (.error e, s) => (.replied (.error (sessionReply e)), { d with mobileMoica := s })
      | (.ok consumed, s) =>
        match consumed.sighting with
        | none => (.replied (.error (500, "provider_session_error")), { d with mobileMoica := s })
        | some sighting =>
          if consumed.subjectCommitment = "" then
            (.replied (.error (500, "provider_session_error")), { d with mobileMoica := s })
          else
            (.statusSave
              { offerID := consumed.offerID, did := consumed.did
                subjectCommitment := consumed.subjectCommitment, verifiedAt := env.now
                expiresAt := earlier consumed.expiresAt expiresAt, sighting },
              { d with mobileMoica := s })
  | .statusSave session =>
      match d.mobileMoica.storeVerifiedSession session env.writes with
      | (.error _, s) =>
        (.replied (.error (500, "provider_session_error")), { d with mobileMoica := s })
      | (.ok (), s) => (.replied (.ok "verified"), { d with mobileMoica := s })
  | .callbackConsume assertion =>
      match d.tw.consumeAuthState assertion.state assertion.replayID env.now env.writes with
      | (.error e, s) => (.replied (.error (sessionReply e)), { d with tw := s })
      | (.ok session, s) =>
        let comms := computeAll M d.peppers assertion.providerSubject assertion.assuranceContext
        (.callbackLookup comms
          { offerID := session.offerID, did := session.did, email := session.email
            subjectCommitment := comms.headD "", verifiedAt := env.now
            expiresAt := earlier session.expiresAt (some assertion.expiresAt)
            sighting := d.sight ⟨assertion.assuranceContext, assertion.providerSubject⟩ comms },
          { d with tw := s })
  | .callbackLookup todo session =>
      (lookUp d.store "duplicate_active_credential" (.callbackLookup · session)
        (.callbackSave session) todo, d)
  | .callbackSave session =>
      match d.tw.storeVerifiedSession session env.writes with
      | (.error _, s) => (.replied (.error (500, "provider_session_error")), { d with tw := s })
      | (.ok (), s) => (.replied (.ok "verified"), { d with tw := s })
  | .issueConsume flow did email offerID =>
      match (d.sessions flow).consumeVerifiedSession offerID env.now env.writes with
      | (.error .verifiedNotFound, s) =>
          (.replied (.error (409, "provider_not_verified")), d.setSessions s flow)
      | (.error _, s) => (.replied (.error (500, "provider_session_error")), d.setSessions s flow)
      | (.ok session, s) =>
          if mismatch flow did email session then
            (.replied (.error (401, "state_mismatch")), d.setSessions s flow)
          else (d.setSessions s flow).handOver cfg (requestOf flow did session) session.sighting
  | .passportLookup [] did storedPersonBinding passportNumberHash ageOver18 sighting =>
      d.handOver cfg (.issuePassport did storedPersonBinding passportNumberHash ageOver18) sighting
  | .passportLookup (c :: todo) did storedPersonBinding passportNumberHash ageOver18 sighting =>
      (lookUp d.store "personhood_already_bound"
        (.passportLookup · did storedPersonBinding passportNumberHash ageOver18 sighting) .cut
        (c :: todo), d)
  | .issuing q => (.issuing q, d)
  | .replied reply => (.replied reply, d)
  | .cut => (.cut, d)

/-- What moves the issuer on. -/
inductive DeskEvent where
  | call (r : CallRequest) (env : CallEnv)
  /-- The next step of the handler of the request with the number `i`. -/
  | next (i : ℕ) (env : CallEnv)
  /-- The next step of the issuer on its request with the number `q`. -/
  | run (q : ℕ) (env : Env)
  | revoke (credentialID : String) (writes : Bool)
  /-- The process ends, and starts from the files with these peppers. -/
  | restart (peppers : PepperSet) (cutoff : Instant) (writes : Bool)

/-- What a restart leaves of a handler. -/
def Call.cutOff : Call → Call
  | .replied reply => .replied reply
  | _ => .cut

/-- Whose the humanity credentials are, after a step of the issuer. -/
def Desk.bind (d : Desk) (q : ℕ) (env : Env) : String → Option Person :=
  match d.watched.issuer.requests[q]?, d.sightings[q]? with
  | some (.adding (draft :: _)), some sighting =>
      let id := credentialID cfg.issuerURL env.credHex
      if draft.nationalIDHash ≠ "" ∧ env.signs ∧
        (d.store.add (draft.record id) env.writes).1 = .ok ()
      then Function.update d.bound id (some sighting.person)
      else d.bound
  | _, _ => d.bound

/-- One step of the issuer with its sessions. -/
def Desk.step (d : Desk) : DeskEvent → Desk
  | .call r env => { d with calls := d.calls ++ [r.begin M cfg env d] }
  | .next i env =>
      match d.calls[i]? with
      | none => d
      | some call =>
          let (call', d') := call.next M cfg env d
          { d' with calls := d'.calls.set i call' }
  | .run q env =>
      { d with watched := watch cfg.issuerURL d.watched (.run q env), bound := d.bind cfg q env }
  | .revoke id writes => { d with watched := watch cfg.issuerURL d.watched (.revoke id writes) }
  | .restart peppers cutoff writes =>
      { d with
        watched := watch cfg.issuerURL d.watched .restart
        peppers
        mobileMoica := d.mobileMoica.reload cutoff writes
        tw := d.tw.reload cutoff writes
        calls := d.calls.map Call.cutOff }

end Ansible.Vc
