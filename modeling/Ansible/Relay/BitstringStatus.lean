import Ansible.Lib.Bitstring
import Ansible.Lib.Jwt
import Ansible.Lib.Numerals
import Ansible.Lib.Uri
import Ansible.Relay.VpVerifier

/-!
# The status of a credential

A credential names its places in lists of bits, which its issuer signs and publishes.  The relay
fetches a list from an origin that its operator has pinned, verifies it, and reads the bit.  A
credential of the system issuer may name an endpoint instead that answers with the status.

## Main definitions

* `TrustedMembershipIssuer.resolve`, `statusUrlAllowed` — what the operator has pinned.
* `BitstringStatusChecker.checkEntry`, `check` — the status of an entry, and of a credential.
* `BoardVpVerifier.validateStatus` — the check of the verifier.

## Main results

* `BitstringStatusChecker.bitSet_eq_bit` — the bit that is read is the one of the index.
* `BitstringStatusChecker.checkEntry_of_checked` — the status of an entry is a bit of a verified
  list.
* `BitstringStatusChecker.check_eq_active` — when a credential is active.
* `BoardVpVerifier.status_accepted` — **a status is accepted only when the entries of its list are
  clear, or its endpoint answers.**
-/

namespace Ansible

/-- An entry of `trusted_membership_issuers`. -/
structure MembershipIssuerEntry where
  did : Option String
  keyId : Option String
  publicKeyMultibase : Option String
  statusOrigin : Option String

/-- What the checks of a status rely on: the issuers that are pinned, and the answers of the
network; decompression of what is no archive raises. -/
structure StatusEnv extends Platform where
  membershipIssuers : List MembershipIssuerEntry
  systemIssuers : List TrustedIssuer
  gunzip : Binary → Option Binary
  fetch : String → Option Binary
  fetchJson : String → Option Json

namespace TrustedMembershipIssuer

def decodeMultibaseKey (e : MembershipIssuerEntry) : Option Binary := do
  let encoded ← afterPrefix (bytes "u") (bytes (← e.publicKeyMultibase))
  (← decodeUrl64 encoded) |> fun key => if key.length = 32 then some key else none

def resolveSystemIssuer (V : StatusEnv) (issuerDid keyId : String) : Option Binary :=
  if keyId = issuerDid ++ "#key-1" then do
    let entry ← V.systemIssuers.find? (·.did == issuerDid)
    let key ← decode16 (bytes entry.publicKeyHex)
    if key.length = 32 then some key else none
  else none

/-- The key of an issuer under a key identifier. -/
def resolve (V : StatusEnv) : Json → Json → Option Binary
  | .str issuerDid, .str keyId =>
    match V.membershipIssuers.find? fun e => e.did == some issuerDid && e.keyId == some keyId with
    | some entry => decodeMultibaseKey entry
    | none => resolveSystemIssuer V issuerDid keyId
  | _, _ => none

/-- `URI.decode`, which raises on a percent sign without two digits. -/
def decodePercent : Binary → Option Binary
  | 37 :: a :: b :: r => do
    let hi ← hexNibble a
    let lo ← hexNibble b
    return UInt8.ofNat (hi * 16 + lo) :: (← decodePercent r)
  | 37 :: _ => none
  | c :: r => do return c :: (← decodePercent r)
  | [] => some []

/-- The origin of a `did:web`, `none` when it raises. -/
def didWebOrigin (did : String) : Option (Option Uri) :=
  match afterPrefix (bytes "did:web:") (bytes did) with
  | none => some none
  | some encodedHost =>
    (decodePercent (encodedHost.takeWhile (· ≠ 58))).map fun host =>
      some (Uri.parse ("https://" ++ String.ofList (decodeUtf8 host)))

/-- Whether an issuer before the first that raises is at the host. -/
def trustedSystemIssuerHost (host : Option Text) (port : Option ℕ) :
    List TrustedIssuer → Option Bool
  | [] => some false
  | entry :: entries =>
    match didWebOrigin entry.did with
    | none => none
    | some origin =>
      if origin.any fun uri => uri.host == host && uri.port == port then some true
      else trustedSystemIssuerHost host port entries

/-- Whether a URL is at an origin that is pinned; `none` when it raises. -/
def statusUrlAllowed (V : StatusEnv) (url : String) : Option Bool :=
  let uri := Uri.parse url
  if uri.scheme = some (chars "https") then
    if V.membershipIssuers.any fun e =>
        let origin := Uri.parse (e.statusOrigin.getD "")
        origin.scheme == some (chars "https") && origin.host == uri.host && origin.port == uri.port
    then some true
    else trustedSystemIssuerHost uri.host uri.port V.systemIssuers
  else some false

end TrustedMembershipIssuer

namespace BitstringStatusChecker

open TrustedMembershipIssuer

inductive Status
  | active
  | revoked
  | suspended
  | unavailable
  deriving DecidableEq, Repr

def maxAgeSeconds : ℤ := 300

def maxResponseBytes : ℕ := 1000000

/-! ### Texts -/

mutual

/-- `to_string` of a list of characters, of texts and of such lists. -/
def chardata : Json → Option Text
  | .str s => some (chars s)
  | .int i => if h : 0 ≤ i ∧ i.toNat.isValidChar then some [Char.ofNatAux i.toNat h.2] else none
  | .arr l => chardataList l
  | _ => none

def chardataList : List Json → Option Text
  | [] => some []
  | j :: l => do return (← chardata j) ++ (← chardataList l)

end

/-- `to_string`, which raises for a map. -/
def toText : Json → Option Text
  | .null => some []
  | .bool b => some (chars (if b then "true" else "false"))
  | .int i => some (Json.encodeInt i)
  | .float q => some (Json.encodeFloat q)
  | .str s => some (chars s)
  | .arr l => chardataList l
  | .obj _ => none

/-! ### Lists -/

def toUnix (now : Time) : ℤ := now / 1000000

def fresh (claims : Json) (now : Time) : Bool :=
  match claims.fetch "iat" with
  | .int iat => decide (iat ≤ toUnix now + 30) && decide (toUnix now - maxAgeSeconds ≤ iat)
  | _ => false

def decodeMultibase : Json → Option Binary
  | .str s => (afterPrefix (bytes "u") (bytes s)).bind decodeUrl64
  | _ => none

def gunzip (V : StatusEnv) (compressed : Binary) : Option Binary :=
  if compressed.length ≤ maxResponseBytes then
    (V.gunzip compressed).filter fun bits => bits.length = 16384
  else none

/-- The bits of an encoded list. -/
def decodeList (V : StatusEnv) (encodedList : Json) : Option Binary :=
  (decodeMultibase encodedList).bind (gunzip V)

def bitSet (bits : Binary) (index : ℕ) : Bool :=
  match bits[index / 8]? with
  | some byte => decide (byte.toNat &&& (1 <<< (7 - index % 8)) ≠ 0)
  | none => false

def setStatus (purpose : String) : Status := if purpose = "revocation" then .revoked else .suspended

def purposes : List String := ["revocation", "suspension"]

/-- The bits of a list that a JWT carries for a URL and a purpose. -/
def listBits (V : StatusEnv) (url purpose : String) (now : Time) (jwt : Jwt.Decoded) :
    Option Binary := do
  guard ((jwt.header.fetch "alg").eqv (.str "EdDSA") && (jwt.header.fetch "typ").eqv (.str "JWT"))
  let key ← resolve V (jwt.claims.fetch "iss") (jwt.header.fetch "kid")
  guard (V.ed25519Verify key jwt.signed jwt.signature)
  guard (fresh jwt.claims now)
  let vc := jwt.claims.fetch "vc"
  let subject := vc.fetch "credentialSubject"
  guard ((vc.fetch "id").eqv (.str url) && (subject.fetch "statusPurpose").eqv (.str purpose))
  decodeList V (subject.fetch "encodedList")

/-- The list at a URL, verified for a purpose. -/
def fetchBits (V : StatusEnv) (url purpose : String) (now : Time) : Option Binary := do
  guard (statusUrlAllowed V url = some true)
  listBits V url purpose now (← Jwt.decodeJwt (← V.fetch url))

def readIndex (entry : Json) : Option ℕ :=
  match (toText (entry.fetch "statusListIndex")).bind parseWhole with
  | some (.ofNat n) => some n
  | _ => none

/-- The purpose, the index and the URL of an entry. -/
def readEntry (entry : Json) : Option (String × ℕ × String) := do
  let purpose ← (entry.fetch "statusPurpose").str?.filter (purposes.contains ·)
  let index ← readIndex entry
  let url ← (entry.fetch "statusListCredential").str?
  return (purpose, index, url)

/-- The purpose and the index of an entry, and the bits that they lead to. -/
def readBits (V : StatusEnv) (now : Time) (entry : Json) : Option (String × ℕ × Binary) := do
  let (purpose, index, url) ← readEntry entry
  let bits ← fetchBits V url purpose now
  guard (index < bits.length * 8)
  return (purpose, index, bits)

/-- What fails or raises makes a status unavailable. -/
def checkEntry (V : StatusEnv) (now : Time) (entry : Json) : Status :=
  match readBits V now entry with
  | some (purpose, index, bits) => if bitSet bits index then setStatus purpose else .active
  | none => .unavailable

/-- The entries are checked in order, until one is not active. -/
def checkEntries (V : StatusEnv) (now : Time) : List Json → Status
  | [] => .active
  | entry :: entries =>
    match checkEntry V now entry with
    | .active => checkEntries V now entries
    | status => status

/-- The status at an endpoint of the system issuer; `none` when it raises. -/
def checkEndpoint (V : StatusEnv) (url : String) : Option Status :=
  (statusUrlAllowed V url).map fun allowed =>
    match allowed, (V.fetchJson url).bind (·.get? "status") with
    | true, some (.str "active") => .active
    | true, some (.str "revoked") => .revoked
    | true, some (.str "suspended") => .suspended
    | _, _ => .unavailable

/-- The status of a credential; `none` when it raises. -/
def check (V : StatusEnv) (status : Json) (now : Time) : Option Status :=
  match status with
  | .arr entries => some (checkEntries V now entries)
  | status =>
    match status.get? "type", status.get? "id" with
    | some (.str "TrisAuraStatusEndpoint2024"), some (.str url) => checkEndpoint V url
    | _, _ => some .unavailable

/-! ### Bits -/

theorem guard_eq_some {p : Prop} [Decidable p] {u : Unit} :
    (guard p : Option Unit) = some u ↔ p := by
  by_cases h : p <;> simp [h]

variable {bits : Binary} {index : ℕ} {entry : Json} {purpose : String} {V : StatusEnv} {now : Time}

theorem bitSet_eq_bit (h : index < bits.length * 8) :
    bitSet bits index = Bitstring.bit bits index := by
  have hbyte : index / 8 < bits.length := by omega
  have hget : bits[index / 8]? = some bits[index / 8] := List.getElem?_eq_getElem hbyte
  rw [bitSet, Bitstring.bit, List.getD_eq_getElem?_getD, hget]
  dsimp only [Option.getD_some]
  rw [Nat.one_shiftLeft, Nat.and_two_pow]
  cases (bits[index / 8]).toNat.testBit (7 - index % 8) with
  | false => simp
  | true => simp

/-! ### Entries -/

/-- What an entry has been checked against: the bits of a list that is verified for its purpose. -/
structure Checked (V : StatusEnv) (now : Time) (entry : Json) (purpose : String) (index : ℕ)
    (bits : Binary) : Prop where
  purposed : entry.fetch "statusPurpose" = .str purpose ∧ purpose ∈ purposes
  indexed : readIndex entry = some index ∧ index < bits.length * 8
  listed : ∃ url, entry.fetch "statusListCredential" = .str url ∧
    fetchBits V url purpose now = some bits

theorem readEntry_eq_some {url : String} :
    readEntry entry = some (purpose, index, url) ↔
      (entry.fetch "statusPurpose" = .str purpose ∧ purpose ∈ purposes) ∧
        readIndex entry = some index ∧ entry.fetch "statusListCredential" = .str url := by
  simp only [readEntry, Option.bind_eq_bind, Option.bind_eq_some_iff, Option.filter_eq_some_iff,
    Json.str?_eq_some, Option.pure_def, Option.some.injEq, Prod.mk.injEq]
  constructor
  · rintro ⟨p, ⟨hp, hmem⟩, i, hi, u, hu, rfl, rfl, rfl⟩
    exact ⟨⟨hp, by simpa using hmem⟩, hi, hu⟩
  · rintro ⟨⟨hp, hmem⟩, hi, hu⟩
    exact ⟨purpose, ⟨hp, by simpa using hmem⟩, index, hi, url, hu, rfl, rfl, rfl⟩

theorem readBits_eq_some : readBits V now entry = some (purpose, index, bits) ↔
      Checked V now entry purpose index bits := by
  simp only [readBits, Option.bind_eq_bind, Option.bind_eq_some_iff, Prod.exists, Option.pure_def,
    Option.some.injEq, Prod.mk.injEq]
  constructor
  · rintro ⟨p, i, url, hread, b, hbits, u, hguard, rfl, rfl, rfl⟩
    obtain ⟨hpurpose, hindex, hurl⟩ := readEntry_eq_some.1 hread
    exact ⟨hpurpose, ⟨hindex, guard_eq_some.1 hguard⟩, url, hurl, hbits⟩
  · rintro ⟨hpurpose, ⟨hindex, hlt⟩, url, hurl, hbits⟩
    exact ⟨purpose, index, url, readEntry_eq_some.2 ⟨hpurpose, hindex, hurl⟩, bits, hbits, (),
      guard_eq_some.2 hlt, rfl, rfl, rfl⟩

/-- **The status of an entry is a bit of a verified list.** -/
theorem checkEntry_of_checked (h : Checked V now entry purpose index bits) :
    checkEntry V now entry =
      if Bitstring.bit bits index then setStatus purpose else .active := by
  rw [checkEntry, readBits_eq_some.2 h]
  dsimp only
  rw [bitSet_eq_bit h.indexed.2]

theorem checkEntry_eq_active :
    checkEntry V now entry = .active ↔ ∃ purpose index bits,
      Checked V now entry purpose index bits ∧ Bitstring.bit bits index = false := by
  constructor
  · intro h
    cases hread : readBits V now entry with
    | none =>
      rw [checkEntry, hread] at h
      cases h
    | some read =>
      obtain ⟨purpose, index, bits⟩ := read
      have hchecked := readBits_eq_some.1 hread
      refine ⟨purpose, index, bits, hchecked, ?_⟩
      rw [checkEntry_of_checked hchecked] at h
      split at h
      · unfold setStatus at h
        split at h <;> cases h
      · next hbit => exact Bool.eq_false_iff.2 hbit
  · rintro ⟨purpose, index, bits, hchecked, hbit⟩
    rw [checkEntry_of_checked hchecked, hbit]
    rfl

theorem checkEntries_eq_active {entries : List Json} :
    checkEntries V now entries = .active ↔
      ∀ entry ∈ entries, checkEntry V now entry = .active := by
  induction entries with
  | nil => exact iff_of_true rfl fun _ h => absurd h List.not_mem_nil
  | cons entry entries ih =>
    rw [List.forall_mem_cons, ← ih, checkEntries]
    cases checkEntry V now entry <;> simp

/-! ### Credentials -/

/-- An endpoint of the system issuer, at a pinned origin, that answers that the status is
active. -/
def EndpointActive (V : StatusEnv) (status : Json) : Prop :=
  status.fetch "type" = .str "TrisAuraStatusEndpoint2024" ∧ ∃ url, status.fetch "id" = .str url ∧
    statusUrlAllowed V url = some true ∧
    ((V.fetchJson url).bind (·.get? "status")) = some (.str "active")

theorem checkEndpoint_eq_active {url : String} :
    checkEndpoint V url = some .active ↔ statusUrlAllowed V url = some true ∧
      ((V.fetchJson url).bind (·.get? "status")) = some (.str "active") := by
  unfold checkEndpoint
  cases statusUrlAllowed V url with
  | none => simp
  | some allowed =>
    rw [Option.map_some, Option.some.injEq, Option.some.injEq]
    split <;> simp_all

/-- **A credential is active when its status is a list of entries that are, or an endpoint that
answers so.** -/
theorem check_eq_active {status : Json} :
    check V status now = some .active ↔
      (∃ entries, status = .arr entries ∧ ∀ entry ∈ entries, ∃ purpose index bits,
        Checked V now entry purpose index bits ∧ Bitstring.bit bits index = false) ∨
      EndpointActive V status := by
  cases status with
  | arr entries =>
    have hendpoint : ¬ EndpointActive V (.arr entries) := fun h => nomatch h.1
    rw [or_iff_left hendpoint, check, Option.some.injEq, checkEntries_eq_active]
    simp only [checkEntry_eq_active, Json.arr.injEq, exists_eq_left']
  | obj fields =>
    have hlist : ¬ ∃ entries, Json.obj fields = .arr entries ∧ ∀ entry ∈ entries,
        ∃ purpose index bits, Checked V now entry purpose index bits ∧
          Bitstring.bit bits index = false := fun ⟨_, h, _⟩ => nomatch h
    rw [or_iff_right hlist, check, EndpointActive, Json.fetch, Json.fetch]
    · cases (Json.obj fields).get? "type" with
      | none => simp
      | some type =>
        cases (Json.obj fields).get? "id" with
        | none => simp
        | some id =>
          split
          · next url htype hid =>
            cases htype
            cases hid
            simp [checkEndpoint_eq_active]
          · next hother =>
            simp only [Option.getD_some]
            constructor
            · intro h
              cases Option.some.inj h
            · rintro ⟨rfl, url, rfl, -⟩
              exact absurd rfl (hother url rfl)
    · exact fun _ h => nomatch h
  | null | bool | int | float | str => simp [check, EndpointActive, Json.fetch, Json.get?]

end BitstringStatusChecker

/-! ### The verifier -/

namespace BoardVpVerifier

open BitstringStatusChecker

inductive StatusError
  | credentialRevoked
  | credentialStatusUnavailable
  | invalidPresentation
  deriving DecidableEq

/-- `validate_status`; what raises in it ends the verification. -/
def validateStatus (V : StatusEnv) (vc : Json) (now : Time) : Except StatusError Unit :=
  match check V (vc.fetch "credentialStatus") now with
  | some .active => .ok ()
  | some .revoked => .error .credentialRevoked
  | some .suspended => .error .credentialRevoked
  | some .unavailable => .error .credentialStatusUnavailable
  | none => .error .invalidPresentation

/-- Every entry of the credential has been found clear in a list that is verified. -/
def EntriesClear (V : StatusEnv) (vc : Json) (now : Time) : Prop :=
  ∃ entries, vc.fetch "credentialStatus" = .arr entries ∧ ∀ entry ∈ entries,
    ∃ purpose index bits, BitstringStatusChecker.Checked V now entry purpose index bits ∧
      Bitstring.bit bits index = false

/-- A status that is accepted has an entry for revocations, and its entries are clear. -/
def FailsClosed (V : StatusEnv) (vc : Json) (now : Time) : Prop :=
  validateStatus V vc now = .ok () → EntriesClear V vc now ∧
    ∃ entries, vc.fetch "credentialStatus" = .arr entries ∧
      ∃ entry ∈ entries, entry.fetch "statusPurpose" = .str "revocation"

/-- **A status is accepted only when it is a list whose entries are all clear, or an endpoint at a
pinned origin that answers that the status is active.**  The fold over the entries starts at
active and keeps the first answer that is not, so nothing is accepted on an entry that is set or
cannot be checked. -/
theorem status_accepted {V : StatusEnv} {vc : Json} {now : Time}
    (h : validateStatus V vc now = .ok ()) :
    EntriesClear V vc now ∨ EndpointActive V (vc.fetch "credentialStatus") := by
  refine check_eq_active.1 ?_
  unfold validateStatus at h
  split at h
  · next hactive => exact hactive
  · cases h
  · cases h
  · cases h
  · cases h

/-- The system issuer is pinned, and its endpoint answers. -/
def toyEndpoint : StatusEnv where
  toPlatform := .toy
  membershipIssuers := []
  systemIssuers := [⟨"did:web:a", "", none⟩]
  gunzip _ := none
  fetch _ := none
  fetchJson _ := some (.obj [("status", .str "active")])

def toyEndpointCredential : Json :=
  .obj [("credentialStatus",
    .obj [("type", .str "TrisAuraStatusEndpoint2024"), ("id", .str "https://a/s")])]

/-! A list whose bits are all clear, signed by the system issuer, and a credential with an entry
in it. -/

def toyListKey : Binary := List.replicate 32 7

def toyListHeader : Json :=
  .obj [("alg", .str "EdDSA"), ("kid", .str "did:web:a#key-1"), ("typ", .str "JWT")]

def toyListClaims : Json :=
  .obj [("iat", .int 0), ("iss", .str "did:web:a"),
    ("vc", .obj [("credentialSubject",
        .obj [("encodedList", .str "u"), ("statusPurpose", .str "revocation")]),
      ("id", .str "https://a/1")])]

def toyListSignature : Binary :=
  toyListKey ++ toyHash (Jwt.unsigned Json.escapeChar toyListHeader toyListClaims).utf8

def toyBits : Binary := List.replicate 16384 0

theorem length_toyBits : toyBits.length = 16384 := List.length_replicate

def toyListed : StatusEnv :=
  { toyEndpoint with
    systemIssuers := [⟨"did:web:a", String.ofList (encode16 toyListKey), none⟩]
    gunzip := fun _ => some toyBits
    fetch := fun _ =>
      some (Jwt.compact Json.escapeChar toyListHeader toyListClaims toyListSignature).utf8 }

def toyListEntry : Json :=
  .obj [("statusPurpose", .str "revocation"), ("statusListIndex", .str "8"),
    ("statusListCredential", .str "https://a/1")]

theorem fetchBits_toyListed :
    fetchBits toyListed "https://a/1" "revocation" 0 = some toyBits := by
  have hdecode : Jwt.decodeJwt (Jwt.compact Json.escapeChar toyListHeader toyListClaims
      toyListSignature).utf8 = some ⟨toyListHeader, toyListClaims,
        (Jwt.unsigned Json.escapeChar toyListHeader toyListClaims).utf8, toyListSignature⟩ :=
    Jwt.decodeJwt_compact Json.parseString_escapeChar
      (by simp [toyListHeader, Json.Determined, Json.DeterminedFields])
      (by simp [toyListClaims, Json.Determined, Json.DeterminedFields]) ⟨rfl, rfl⟩ toyListSignature
  have hallowed : TrustedMembershipIssuer.statusUrlAllowed toyListed "https://a/1" = some true := by
    decide +kernel
  have hkey : TrustedMembershipIssuer.resolve toyListed (toyListClaims.fetch "iss")
      (toyListHeader.fetch "kid") = some toyListKey := by
    decide +kernel
  have hverify : toyListed.ed25519Verify toyListKey
      (Jwt.unsigned Json.escapeChar toyListHeader toyListClaims).utf8 toyListSignature = true :=
    beq_self_eq_true toyListSignature
  have hfetched : toyListed.fetch "https://a/1" = some (Jwt.compact Json.escapeChar toyListHeader
      toyListClaims toyListSignature).utf8 := rfl
  have hdecoded : decodeList toyListed (.str "u") = some toyBits := by
    have hempty : decodeMultibase (.str "u") = some [] := by decide +kernel
    have hgunzip : toyListed.gunzip [] = some toyBits := rfl
    simp [decodeList, hempty, gunzip, hgunzip, length_toyBits]
  have htyped : ((toyListHeader.fetch "alg").eqv (.str "EdDSA") &&
      (toyListHeader.fetch "typ").eqv (.str "JWT")) = true := rfl
  have hfresh : fresh toyListClaims 0 = true := by decide
  have hnamed : (((toyListClaims.fetch "vc").fetch "id").eqv (.str "https://a/1") &&
      (((toyListClaims.fetch "vc").fetch "credentialSubject").fetch "statusPurpose").eqv
        (.str "revocation")) = true := rfl
  rw [fetchBits, hallowed, hfetched]
  simp only [guard, if_true, Option.bind_eq_bind, Option.pure_def, Option.bind_some, hdecode,
    listBits, htyped, hkey, hverify, hfresh, hnamed]
  exact hdecoded

theorem toy_status_accepted :
    (EntriesClear toyEndpoint toyEndpointCredential 0 ∨
      EndpointActive toyEndpoint (toyEndpointCredential.fetch "credentialStatus")) ∧
    (EntriesClear toyListed (.obj [("credentialStatus", .arr [toyListEntry])]) 0 ∨
      EndpointActive toyListed (.arr [toyListEntry])) := by
  have hchecked : BitstringStatusChecker.Checked toyListed 0 toyListEntry "revocation" 8 toyBits :=
    ⟨⟨rfl, by decide⟩, ⟨by decide +kernel, by simp [length_toyBits]⟩, "https://a/1", rfl,
      fetchBits_toyListed⟩
  have hactive : check toyListed (.arr [toyListEntry]) 0 = some .active := by
    refine check_eq_active.2 (.inl ⟨_, rfl, fun entry hentry => ?_⟩)
    rw [List.mem_singleton.1 hentry]
    exact ⟨_, _, _, hchecked, Bitstring.bit_replicate _ _⟩
  have haccepted : validateStatus toyListed (.obj [("credentialStatus", .arr [toyListEntry])]) 0 =
      .ok () := by
    rw [validateStatus, show Json.fetch _ "credentialStatus"
      = .arr [toyListEntry] from rfl, hactive]
  exact ⟨status_accepted (by decide +kernel), status_accepted haccepted⟩

/-- **A status without a list is accepted**, when its endpoint answers. -/
theorem endpoint_accepted : ¬ FailsClosed toyEndpoint toyEndpointCredential 0 := by
  intro h
  obtain ⟨-, entries, hentries, -⟩ := h (by decide +kernel)
  cases hentries

end BoardVpVerifier

end Ansible
