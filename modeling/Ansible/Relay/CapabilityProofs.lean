import Ansible.Lib.Base64
import Ansible.Lib.Numerals
import Ansible.Relay.PostingGate

/-!
# Proofs of possession of a board capability

A request that uses a board capability carries a proof, signed by the key of the device over the
request, a timestamp and a nonce.  A proof is accepted around its timestamp only, and recorded when
it is accepted.  The record expires a minute after the acceptance, the proof a minute after its
timestamp.

## Main definitions

* `BoardCapabilityRequest.authorize` — the check of a request, and the record of its proof.
* `CapabilitySystem`, `capabilityStep` — requests, purges of expired records, and what else
  happens to the capabilities.
* `OpenKept`, `NoncesKept` — a purge leaves the records of proofs that could be accepted once more;
  a device takes a nonce for one proof.

## Main results

* `proofs_used_once` — **in every run with such purges each proof is accepted at most once, and
  each nonce of a device that takes it for one proof.**
-/

namespace Ansible

namespace BoardCapability

/-- A row of `forum_host_board_access_grants`. -/
structure AccessGrant where
  capabilityHash : String
  hostedBoardId : String
  pairwiseSubjectHash : String
  deviceKeyThumbprint : String
  audience : String
  policyVersion : ℤ
  scopes : List String
  expiresAt : Time
  revokedAt : Option Time
  deriving DecidableEq, Repr

def AccessGrant.revoke (now : Time) (g : AccessGrant) : AccessGrant :=
  { g with revokedAt := some now }

abbrev GrantTable := Table AccessGrant (UniqueOn AccessGrant.capabilityHash fun _ => true)

/-- A row of `forum_host_board_dpop_proofs`. -/
structure DpopProof where
  proofHash : String
  capabilityHash : String
  expiresAt : Time
  insertedAt : Time
  deriving DecidableEq, Repr

abbrev ProofTable := Table DpopProof (UniqueOn DpopProof.proofHash fun _ => true)

/-- What the relay stores about capabilities. -/
structure CapabilityStore where
  host : ForumHost
  grants : GrantTable
  proofs : ProofTable

/-- SHA-256 in hexadecimal. -/
def hash (P : Platform) (value : Binary) : String := String.ofList (encode16 (P.sha256 value))

def resolveBoard (boardId : String) (s : CapabilityStore) : Option ForumHostBoard :=
  let hosted := s.host.boards.find (·.hostedBoardId == boardId)
  match parseWhole (chars boardId) with
  | some n => if 0 < n then (s.host.boards.find fun b => (b.boardId : ℤ) == n).or hosted else hosted
  | none => hosted

/-- The number of a board, or else its hosted key. -/
def canonicalBoardId (b : ForumHostBoard) : String :=
  if 0 < b.boardId then toString b.boardId else b.hostedBoardId

def tokenPrefix : Text := chars "elix_board_v1_"

def activeGrant (capabilityHash : String) (now : Time) (s : CapabilityStore) :
    Option AccessGrant :=
  s.grants.find fun g =>
    g.capabilityHash == capabilityHash && g.revokedAt.isNone && decide (now < g.expiresAt)

/-- A capability holds at its board under the current policy, in its scopes, for its device. -/
def authorize (P : Platform) (baseUrl token boardId scope thumbprint : String) (now : Time)
    (s : CapabilityStore) : Except CapabilityError AccessGrant :=
  if tokenPrefix.isPrefixOf (chars token) then
    match activeGrant (hash P (bytes token)) now s, resolveBoard boardId s with
    | none, _ => .error .capabilityExpired
    | some _, none => .error .capabilityExpired
    | some grant, some board =>
      if grant.hostedBoardId = board.hostedBoardId ∧ grant.audience = baseUrl ∧
          grant.policyVersion = board.accessPolicyVersion ∧ scope ∈ grant.scopes ∧
          grant.deviceKeyThumbprint = thumbprint then .ok grant
      else .error .invalidBoardCapability
  else .error .invalidBoardCapability

end BoardCapability

namespace BoardCapabilityRequest

open BoardCapability

/-- A request: its method, its path and its headers, each with the values it has. -/
structure Request where
  method : String
  requestPath : String
  headers : String → List String

def maxClockSkew : ℤ := 60

def Request.header (r : Request) (name : String) : Option String :=
  match r.headers name with
  | [value] => if value ≠ "" then some value else none
  | _ => none

/-- The key of a device, and its thumbprint. -/
structure P256Material where
  publicHex : String
  thumbprint : String

/-- A coordinate that is no text fails the request with an exception. -/
def coordinate : Json → Option Binary
  | .str text => (decodeUrl64 (bytes text)).filter fun b => b.length = 32
  | _ => none

def p256Material (P : Platform) (jwk : Json) : Option P256Material :=
  if (jwk.fetch "kty").eqv (.str "EC") && (jwk.fetch "crv").eqv (.str "P-256") then
    match coordinate (jwk.fetch "x"), coordinate (jwk.fetch "y") with
    | some x, some y =>
      let key := Json.obj [("crv", jwk.fetch "crv"), ("kty", jwk.fetch "kty"),
        ("x", jwk.fetch "x"), ("y", jwk.fetch "y")]
      some { publicHex := String.ofList (encode16 (4 :: x ++ y))
             thumbprint := String.ofList (encodeUrl64 (P.sha256 key.encode.utf8)) }
    | _, _ => none
  else none

/-- What a device signs. -/
def canonicalRequest (P : Platform) (r : Request) (boardId scope timestamp nonce token : String) :
    Text :=
  ['\n'].intercalate ([r.method, r.requestPath, boardId, scope, timestamp, nonce,
    hash P (bytes token)].map chars)

def toUnix (now : Time) : ℤ := now / 1000000

/-- A proof: the key of the device, the capability, the timestamp with the second that it denotes,
and the nonce. -/
structure Proof where
  thumbprint : String
  token : String
  timestamp : String
  unix : ℤ
  nonce : String
  deriving DecidableEq, Repr

/-- What is missing fails a request. -/
def need {α : Type} (o : Option α) (e : CapabilityError) : Except CapabilityError α :=
  match o with
  | some a => .ok a
  | none => .error e

/-- The checks of a request before its proof is recorded; the capability is looked up at a time of
its own. -/
def check (P : Platform) (baseUrl : String) (r : Request) (boardId scope : String)
    (now looked : Time) (s : CapabilityStore) : Except CapabilityError (AccessGrant × Proof) := do
  let board ← need (resolveBoard boardId s) .invalidBoardCapability
  let token ← need (r.header "x-elix-board-capability") .boardCapabilityRequired
  let encodedJwk ← need (r.header "x-elix-board-jwk") .boardCapabilityRequired
  let timestamp ← need (r.header "x-elix-board-timestamp") .boardCapabilityRequired
  let nonce ← need (r.header "x-elix-board-request-nonce") .boardCapabilityRequired
  let signature ← need (r.header "x-elix-board-proof") .boardCapabilityRequired
  let unix ← need (parseWhole (chars timestamp)) .invalidBoardCapability
  ensure (decide ((toUnix now - unix).natAbs ≤ maxClockSkew)) .invalidBoardCapability
  let jwk ← need ((decodeUrl64 (bytes encodedJwk)).bind Json.decodeBytes)
    .invalidBoardCapability
  let key ← need (p256Material P jwk) .invalidBoardCapability
  ensure (SigVerifier.verifyIdentity P "p256-sha256" key.publicHex
    (canonicalRequest P r (canonicalBoardId board) scope timestamp nonce token) signature)
    .invalidBoardCapability
  let grant ← BoardCapability.authorize P baseUrl token (canonicalBoardId board) scope
    key.thumbprint looked s
  return (grant, ⟨key.thumbprint, token, timestamp, unix, nonce⟩)

def proofHash (P : Platform) (p : Proof) : String :=
  hash P (bytes (hash P (bytes p.token)) ++ 0 :: (bytes p.timestamp ++ 0 :: bytes p.nonce))

/-- The record of a proof that is accepted. -/
def proofRow (P : Platform) (p : Proof) (now : Time) : DpopProof where
  proofHash := proofHash P p
  capabilityHash := hash P (bytes p.token)
  expiresAt := now + seconds maxClockSkew
  insertedAt := now

def authorize (P : Platform) (baseUrl : String) (r : Request) (boardId scope : String)
    (now looked : Time) :
    Checked CapabilityStore CapabilityError (AccessGrant × Proof) := fun s =>
  match check P baseUrl r boardId scope now looked s with
  | .error e => (.error e, s)
  | .ok (grant, p) =>
    match s.proofs.insert (proofRow P p now) with
    | some proofs => (.ok (grant, p), { s with proofs })
    | none => (.error .boardCapabilityReplay, s)

/-! ### The system -/

/-- A proof that was accepted, and when. -/
structure Accepted where
  proof : Proof
  now : Time

/-- The store, the proofs that were accepted, and the last time of a purge. -/
structure CapabilitySystem extends CapabilityStore where
  accepted : List Accepted
  purgedAt : Option Time

/-- Requests, purges of some of the records that have expired, capabilities that are issued, and
changes of the capabilities and of the boards. -/
inductive CapabilityEvent
  | request (r : Request) (boardId scope : String) (now looked : Time)
  | purge (now : Time) (which : DpopProof → Bool)
  | issue (grant : AccessGrant)
  | revoke (now : Time) (which : AccessGrant → Bool)
  | host (h : ForumHost)

/-- Whether a purge removes a record. -/
def purged (now : Time) (which : DpopProof → Bool) (row : DpopProof) : Bool :=
  decide (row.expiresAt ≤ now) && which row

def capabilityStep (P : Platform) (baseUrl : String) (s : CapabilitySystem) :
    CapabilityEvent → CapabilitySystem
  | .request r boardId scope now looked =>
    match authorize P baseUrl r boardId scope now looked s.toCapabilityStore with
    | (.ok (_, p), t) => { s with toCapabilityStore := t, accepted := s.accepted ++ [⟨p, now⟩] }
    | (.error _, t) => { s with toCapabilityStore := t }
  | .purge now which =>
    { s with
      proofs := s.proofs.remove (purged now which)
      purgedAt := some (s.purgedAt.elim now (max now)) }
  | .issue grant => { s with grants := (s.grants.insert grant).getD s.grants }
  | .revoke now which => { s with grants := (s.grants.update which (·.revoke now)).getD s.grants }
  | .host host => { s with host }

/-- The store with its proofs and its capabilities, before any request. -/
def CapabilitySystem.start (s : CapabilityStore) : CapabilitySystem :=
  { s with accepted := [], purgedAt := none }

/-- The instant at which a proof is too old. -/
def Proof.closes (p : Proof) : Time := seconds (p.unix + maxClockSkew + 1)

/-- A purge removes no record of a proof that could be accepted once more, and no request is
carried out at a time before a purge. -/
def OpenKept (P : Platform) (s : CapabilitySystem) : CapabilityEvent → Prop
  | .request _ _ _ now _ => ∀ t ∈ s.purgedAt, t ≤ now
  | .purge now which => ∀ row ∈ s.proofs.rows, purged now which row = true →
    ∀ a ∈ s.accepted, proofHash P a.proof = row.proofHash → a.proof.closes ≤ now
  | .issue _ | .revoke _ _ | .host _ => True

/-- A device takes a nonce for one proof. -/
def NoncesKept (P : Platform) (baseUrl : String) (s : CapabilitySystem) : CapabilityEvent → Prop
  | .request r boardId scope now looked => ∀ grant p,
    check P baseUrl r boardId scope now looked s.toCapabilityStore = .ok (grant, p) →
      ∀ a ∈ s.accepted, a.proof.thumbprint = p.thumbprint → a.proof.nonce = p.nonce →
        a.proof.token = p.token ∧ a.proof.timestamp = p.timestamp
  | .purge _ _ | .issue _ | .revoke _ _ | .host _ => True

/-- No proof was accepted twice. -/
def ProofsOnce (s : CapabilitySystem) : Prop :=
  (s.accepted.map fun a => (a.proof.token, a.proof.timestamp, a.proof.nonce)).Nodup

/-- No device has used a nonce twice. -/
def NoncesOnce (s : CapabilitySystem) : Prop :=
  (s.accepted.map fun a => (a.proof.thumbprint, a.proof.nonce)).Nodup

/-! ### A request -/

section Request

variable {P : Platform} {baseUrl : String} {r : Request} {boardId scope : String}
  {now looked : Time}

theorem need_eq_ok {α : Type} {o : Option α} {e : CapabilityError} {a : α} :
    need o e = .ok a ↔ o = some a := by
  cases o <;> simp [need]

theorem check_eq_ok {s : CapabilityStore} {grant : AccessGrant} {p : Proof}
    (h : check P baseUrl r boardId scope now looked s = .ok (grant, p)) :
    parseWhole (chars p.timestamp) = some p.unix ∧ now < p.closes := by
  unfold check at h
  obtain ⟨board, -, h⟩ := bind_eq_ok.1 h
  obtain ⟨token, -, h⟩ := bind_eq_ok.1 h
  obtain ⟨encodedJwk, -, h⟩ := bind_eq_ok.1 h
  obtain ⟨timestamp, -, h⟩ := bind_eq_ok.1 h
  obtain ⟨nonce, -, h⟩ := bind_eq_ok.1 h
  obtain ⟨signature, -, h⟩ := bind_eq_ok.1 h
  obtain ⟨unix, hunix, h⟩ := bind_eq_ok.1 h
  obtain ⟨_, hskew, h⟩ := bind_eq_ok.1 h
  obtain ⟨jwk, -, h⟩ := bind_eq_ok.1 h
  obtain ⟨key, -, h⟩ := bind_eq_ok.1 h
  obtain ⟨_, -, h⟩ := bind_eq_ok.1 h
  obtain ⟨grant', -, h⟩ := bind_eq_ok.1 h
  cases h
  refine ⟨need_eq_ok.1 hunix, ?_⟩
  have hclose := of_decide_eq_true (ensure_eq_ok.1 hskew)
  have hbound : ∀ t : ℤ, ((t / 1000000 - unix).natAbs : ℤ) ≤ 60 →
      t < (unix + 60 + 1) * 1000000 := by
    intro t ht
    omega
  exact hbound now hclose

/-- **A request that is authorized records its proof, all others change nothing.** -/
theorem authorize_cases (s : CapabilityStore) :
    (∃ grant p proofs, check P baseUrl r boardId scope now looked s = .ok (grant, p) ∧
      s.proofs.insert (proofRow P p now) = some proofs ∧
      authorize P baseUrl r boardId scope now looked s = (.ok (grant, p), { s with proofs })) ∨
    ∃ e, authorize P baseUrl r boardId scope now looked s = (.error e, s) := by
  unfold authorize
  cases hcheck : check P baseUrl r boardId scope now looked s with
  | error e => exact .inr ⟨e, rfl⟩
  | ok admitted =>
    obtain ⟨grant, p⟩ := admitted
    dsimp only
    cases hinsert : s.proofs.insert (proofRow P p now) with
    | some proofs => exact .inl ⟨grant, p, proofs, rfl, hinsert, rfl⟩
    | none => exact .inr ⟨_, rfl⟩

end Request

/-! ### Runs -/

/-- A proof that was accepted is recorded, or its time is over; no proof was accepted twice. -/
structure Sound (P : Platform) (s : CapabilitySystem) : Prop where
  dated : ∀ a ∈ s.accepted, parseWhole (chars a.proof.timestamp) = some a.proof.unix
  kept : ∀ a ∈ s.accepted, (∃ row ∈ s.proofs.rows, row.proofHash = proofHash P a.proof) ∨
    ∃ t, s.purgedAt = some t ∧ a.proof.closes ≤ t
  once : ProofsOnce s

/-- A proof that is recorded anew was not accepted before. -/
theorem Sound.ne_of_insert {P : Platform} {s : CapabilitySystem} (h : Sound P s) {p : Proof}
    {now : Time} {proofs : ProofTable} (hunix : parseWhole (chars p.timestamp) = some p.unix)
    (hopen : now < p.closes) (hclock : ∀ t ∈ s.purgedAt, t ≤ now)
    (hinsert : s.proofs.insert (proofRow P p now) = some proofs) {a : Accepted}
    (ha : a ∈ s.accepted) :
    (a.proof.token, a.proof.timestamp, a.proof.nonce) ≠ (p.token, p.timestamp, p.nonce) := by
  intro heq
  obtain ⟨htoken, hrest⟩ := Prod.mk.inj heq
  obtain ⟨htimestamp, hnonce⟩ := Prod.mk.inj hrest
  rcases h.kept a ha with ⟨row, hrow, hhash⟩ | ⟨t, ht, hcloses⟩
  · -- the record of the proof is still there
    have hvalid := proofs.valid
    rw [Table.rows_of_commit hinsert] at hvalid
    refine hvalid.ne_of_append row hrow (hhash.trans ?_)
    rw [proofRow, proofHash, proofHash, htoken, htimestamp, hnonce]
  · -- the record was purged, and the proof is too old
    have hdated := h.dated a ha
    rw [htimestamp, hunix] at hdated
    have hsame : a.proof.closes = p.closes :=
      congrArg (fun unix => seconds (unix + maxClockSkew + 1)) (Option.some.inj hdated).symm
    exact absurd (Int.lt_of_lt_of_le hopen (Int.le_trans (hsame ▸ hcloses) (hclock t ht)))
      (Int.lt_irrefl _)

/-- **A step that is permitted keeps the account of the proofs.** -/
theorem Sound.step {P : Platform} {baseUrl : String} {s : CapabilitySystem} (h : Sound P s)
    {e : CapabilityEvent} (hok : OpenKept P s e) : Sound P (capabilityStep P baseUrl s e) := by
  cases e with
  | request r boardId scope now looked =>
    dsimp only [capabilityStep]
    rcases authorize_cases (P := P) (r := r) s.toCapabilityStore with
      ⟨grant, p, proofs, hcheck, hinsert, heq⟩ | ⟨e, heq⟩
    all_goals rw [heq]
    swap
    · exact h
    obtain ⟨hunix, hopen⟩ := check_eq_ok hcheck
    refine ⟨fun a ha => ?_, fun a ha => ?_, ?_⟩
    · rcases List.mem_append.1 ha with ha | ha
      · exact h.dated a ha
      · rw [List.mem_singleton.1 ha]
        exact hunix
    · rcases List.mem_append.1 ha with ha | ha
      · refine (h.kept a ha).imp_left ?_
        rintro ⟨row, hrow, hhash⟩
        exact ⟨row, (Table.mem_insert hinsert).2 (.inl hrow), hhash⟩
      · rw [List.mem_singleton.1 ha]
        exact .inl ⟨_, (Table.mem_insert hinsert).2 (.inr rfl), rfl⟩
    · unfold ProofsOnce
      rw [List.map_append, List.nodup_append]
      refine ⟨h.once, List.nodup_singleton _, fun x hx y hy => ?_⟩
      obtain ⟨a, ha, rfl⟩ := List.mem_map.1 hx
      rw [List.mem_singleton.1 hy]
      exact h.ne_of_insert hunix hopen hok hinsert ha
  | purge now which =>
    refine ⟨h.dated, fun a ha => ?_, h.once⟩
    rcases h.kept a ha with ⟨row, hrow, hhash⟩ | ⟨t, ht, hcloses⟩
    · cases hpurged : purged now which row with
      | false =>
        refine .inl ⟨row, List.mem_filter.2 ⟨hrow, ?_⟩, hhash⟩
        rw [hpurged]
        rfl
      | true =>
        refine .inr ⟨_, rfl, Int.le_trans (hok row hrow hpurged a ha hhash.symm) ?_⟩
        cases s.purgedAt with
        | none => exact Int.le_refl _
        | some t => exact Int.le_max_left _ _
    · refine .inr ⟨_, rfl, Int.le_trans hcloses ?_⟩
      rw [ht]
      exact Int.le_max_right _ _
  | issue grant => exact ⟨h.dated, h.kept, h.once⟩
  | revoke now which => exact ⟨h.dated, h.kept, h.once⟩
  | host host => exact ⟨h.dated, h.kept, h.once⟩

/-- A nonce that a device takes for one proof is used once, as the proof is. -/
theorem noncesOnce_step {P : Platform} {baseUrl : String} {s : CapabilitySystem} (h : Sound P s)
    (honce : NoncesOnce s) {e : CapabilityEvent} (hok : OpenKept P s e)
    (hnonces : NoncesKept P baseUrl s e) : NoncesOnce (capabilityStep P baseUrl s e) := by
  cases e with
  | request r boardId scope now looked =>
    dsimp only [capabilityStep]
    rcases authorize_cases (P := P) (r := r) s.toCapabilityStore with
      ⟨grant, p, proofs, hcheck, hinsert, heq⟩ | ⟨e, heq⟩
    all_goals rw [heq]
    swap
    · exact honce
    obtain ⟨hunix, hopen⟩ := check_eq_ok hcheck
    unfold NoncesOnce
    rw [List.map_append, List.nodup_append]
    refine ⟨honce, List.nodup_singleton _, fun x hx y hy => ?_⟩
    obtain ⟨a, ha, rfl⟩ := List.mem_map.1 hx
    rw [List.mem_singleton.1 hy]
    intro heq'
    obtain ⟨hthumbprint, hnonce⟩ := Prod.mk.inj heq'
    obtain ⟨htoken, htimestamp⟩ := hnonces grant p hcheck a ha hthumbprint hnonce
    refine h.ne_of_insert hunix hopen hok hinsert ha ?_
    rw [htoken, htimestamp, hnonce]
  | purge | issue | revoke | host => exact honce

/-- **In every run in which a purge leaves the records of proofs that could be accepted once more,
each proof is accepted at most once, and each nonce of a device that takes it for one proof.**  A
proof that was accepted has its record in the store until it could not be accepted any more; that
is what a purge must leave. -/
theorem proofs_used_once (P : Platform) (baseUrl : String) (s : CapabilityStore)
    (run : List CapabilityEvent)
    (h : Along (capabilityStep P baseUrl) (OpenKept P) (.start s) run) :
    ProofsOnce (exec (capabilityStep P baseUrl) (.start s) run) ∧
      (Along (capabilityStep P baseUrl) (NoncesKept P baseUrl) (.start s) run →
        NoncesOnce (exec (capabilityStep P baseUrl) (.start s) run)) := by
  have hstart : Sound P (.start s) :=
    ⟨fun a ha => absurd ha List.not_mem_nil, fun a ha => absurd ha List.not_mem_nil,
      List.nodup_nil⟩
  refine ⟨(h.invariant (fun s e hs hok => hs.step hok) hstart).once, fun hnonces => ?_⟩
  have hboth := along_and.2 ⟨h, hnonces⟩
  exact (hboth.invariant (I := fun s => Sound P s ∧ NoncesOnce s)
    (fun s e hs hok => ⟨hs.1.step hok.1, noncesOnce_step hs.1 hs.2 hok.1 hok.2⟩)
    ⟨hstart, List.nodup_nil⟩).2

/-! ### A replay on the toy platform -/

/-- The request of a device for a thread of the board `alpha`, a minute before its timestamp. -/
def toyCapabilityRequest : Request :=
  let unsigned : Request := ⟨"GET", "/t", fun _ => []⟩
  let jwk := "\x7b\"kty\":\"EC\",\"crv\":\"P-256\",\"x\":\"" ++
    String.ofList (encodeUrl64 (List.replicate 32 1)) ++ "\",\"y\":\"" ++
    String.ofList (encodeUrl64 (List.replicate 32 1)) ++ "\"\x7d"
  { unsigned with
    headers := fun name =>
      if name = "x-elix-board-capability" then ["elix_board_v1_A"]
      else if name = "x-elix-board-jwk" then [String.ofList (encodeUrl64 (bytes jwk))]
      else if name = "x-elix-board-timestamp" then ["60"]
      else if name = "x-elix-board-request-nonce" then ["n"]
      else if name = "x-elix-board-proof" then
        [toySign 1 (canonicalRequest .toy unsigned "1" "read" "60" "n" "elix_board_v1_A")]
      else [] }

/-- The capability of the device. -/
def toyGrant : AccessGrant where
  capabilityHash := hash .toy (bytes "elix_board_v1_A")
  hostedBoardId := "alpha"
  pairwiseSubjectHash := "subject"
  deviceKeyThumbprint := "fSJFUUFCRVFBQkVRQUJFUUFCRVFBQkVRQUJFUUFCRVE"
  audience := "https://relay"
  policyVersion := 1
  scopes := ["read"]
  expiresAt := seconds 300
  revokedAt := none

def toyCapabilities : CapabilityStore where
  host := { Moderation.toyHost with boards := ⟨[Moderation.toyBoard 1 "alpha"], by decide⟩ }
  grants := ⟨[toyGrant], by decide⟩
  proofs := ⟨[], by decide⟩

def toyCall (now : Time) : CapabilityEvent :=
  .request toyCapabilityRequest "alpha" "read" now now

/-- The request, a purge, and the same request. -/
def toyReplay : List CapabilityEvent :=
  [toyCall 0, .purge (seconds 61) fun _ => true, toyCall (seconds 120)]

theorem toyReplay_facts :
    (capabilityStep .toy "https://relay" (.start toyCapabilities) (toyCall 0)).accepted.map
      (·.proof.closes) = [seconds 121] ∧
    ((exec (capabilityStep .toy "https://relay") (.start toyCapabilities) toyReplay).accepted.map
      fun a => (a.proof.token, a.proof.timestamp, a.proof.nonce))
        = [("elix_board_v1_A", "60", "n"), ("elix_board_v1_A", "60", "n")] := by
  decide +kernel

/-- The record is purged when the time of the proof is over. -/
theorem proofs_used_once_toy :
    ProofsOnce (exec (capabilityStep .toy "https://relay") (.start toyCapabilities)
      [toyCall 0, .purge (seconds 121) fun _ => true]) ∧
    (Along (capabilityStep .toy "https://relay") (NoncesKept .toy "https://relay")
        (.start toyCapabilities) [toyCall 0, .purge (seconds 121) fun _ => true] →
      NoncesOnce (exec (capabilityStep .toy "https://relay") (.start toyCapabilities)
        [toyCall 0, .purge (seconds 121) fun _ => true])) := by
  refine proofs_used_once .toy "https://relay" toyCapabilities _
    ⟨fun t ht => (nomatch ht), fun row _ _ a ha _ => ?_, trivial⟩
  have hcloses := List.mem_map_of_mem (f := fun a : Accepted => a.proof.closes) ha
  rw [toyReplay_facts.1, List.mem_singleton] at hcloses
  exact Int.le_of_eq hcloses

/-- A proof that was accepted a minute before its timestamp outlives its record by a minute. -/
theorem proof_replayed : ¬ ProofsOnce
    (exec (capabilityStep .toy "https://relay") (.start toyCapabilities) toyReplay) := by
  unfold ProofsOnce
  rw [toyReplay_facts.2]
  decide

end BoardCapabilityRequest

end Ansible
