import Ansible.Issuer.MembershipIssuer
import Ansible.Relay.BitstringStatus

/-!
# Status lists

An issuer publishes the status of its credentials as a string of bits, one for each index, that is
compressed, encoded and signed.  The relay reads the bit of an index out of it.

## Main definitions

* `StatusList.issueBitstringStatusList` — a list as it is signed.

## Main results

* `StatusList.status_list_agrees` — **the relay reads the bit of an index as set exactly when the
  issuer has recorded the status, and its verdict on an entry of the list says so.**
-/

namespace Ansible

namespace StatusList

open Oid4vci

/-- Compression, with what is documented of it: it is undone, and data that cannot be compressed
grows little. -/
structure Gzip (gunzip : Binary → Option Binary) where
  compress : Binary → Binary
  gunzip_compress : ∀ b, gunzip (compress b) = some b
  length_compress_le : ∀ b, (compress b).length ≤ 2 * b.length + 64

def minimumStatusListEntries : ℕ := 131072

structure CredentialStatusEntry where
  index : ℤ
  status : String

structure IssuedStatusList where
  jwt : String
  hash : String
  encodedList : String
  issuedAt : Hosted.Time

/-- The status that a list is about. -/
def isSet (purpose status : String) : Bool :=
  purpose == "revocation" && status == "revoked" || purpose == "suspension" && status == "suspended"

def inList (e : CredentialStatusEntry) : Bool :=
  decide (0 ≤ e.index) && decide (e.index < minimumStatusListEntries)

/-- The loop over the entries, which stops at an index outside of the list. -/
def setBits (purpose : String) (b : Binary) : List CredentialStatusEntry → Option Binary
  | [] => some b
  | e :: entries =>
    if inList e then
      setBits purpose (if isSet purpose e.status then Bitstring.setBit b e.index.toNat else b)
        entries
    else none

def bitstring (purpose : String) (entries : List CredentialStatusEntry) : Option Binary :=
  setBits purpose (List.replicate (minimumStatusListEntries / 8) 0) entries

/-- The members of a map are written in the order of their keys. -/
def subject (listURL purpose encodedList : String) : Json :=
  .obj [("encodedList", .str encodedList), ("id", .str (listURL ++ "#list")),
    ("statusPurpose", .str purpose), ("type", .str "BitstringStatusList")]

def credential (issuerDID listURL purpose encodedList : String) (issuedAt : Hosted.Time) : Json :=
  .obj [("@context", .arr [.str "https://www.w3.org/ns/credentials/v2",
      .str "https://w3id.org/vc/status-list/2021/v1"]),
    ("credentialSubject", subject listURL purpose encodedList), ("id", .str listURL),
    ("issuer", .str issuerDID),
    ("type", .arr [.str "VerifiableCredential", .str "BitstringStatusListCredential"]),
    ("validFrom", .str (rfc3339 issuedAt))]

def claims (issuerDID listURL purpose encodedList : String) (issuedAt : Hosted.Time) : Json :=
  .obj [("iat", .int (unixSeconds issuedAt)), ("iss", .str issuerDID), ("jti", .str listURL),
    ("nbf", .int (unixSeconds issuedAt)), ("sub", .str (listURL ++ "#list")),
    ("vc", credential issuerDID listURL purpose encodedList issuedAt)]

def header (signer : Signer) : Json :=
  .obj [("alg", .str "EdDSA"), ("kid", .str signer.keyID), ("typ", .str "JWT")]

def encodeList (compress : Binary → Binary) (bits : Binary) : String :=
  String.ofList ('u' :: encodeUrl64 (compress bits))

def issueBitstringStatusList (sha256 : Binary → Binary) (compress : Binary → Binary)
    (signer : Option Signer) (issuerDID listURL purpose : String)
    (entries : List CredentialStatusEntry) (now : Hosted.Time) : Option IssuedStatusList :=
  match signer with
  | none => none
  | some signer =>
    if issuerDID = "" ∨ listURL = "" ∨ (purpose ≠ "revocation" ∧ purpose ≠ "suspension") then none
    else do
      let encodedList := encodeList compress (← bitstring purpose entries)
      let header := header signer
      let claims := claims issuerDID listURL purpose encodedList now
      let signature ← signer.sign (Jwt.unsigned GoJson.escapeChar header claims).utf8
      let compact := Jwt.compact GoJson.escapeChar header claims signature
      return {
        jwt := String.ofList compact
        hash := String.ofList (encode16 (sha256 compact.utf8))
        encodedList
        issuedAt := now }

/-- The status of a purpose is recorded for an index. -/
def Listed (purpose : String) (entries : List CredentialStatusEntry) (index : ℕ) : Prop :=
  ∃ e ∈ entries, e.index = index ∧ isSet purpose e.status = true

/-! ### Bits -/

variable {purpose listURL issuerDID : String} {bits : Binary} {entries : List CredentialStatusEntry}
  {sha256 : Binary → Binary} {signer : Signer}

/-- **The bits that the loop sets are those of the entries.** -/
theorem bit_setBits {b : Binary} (h : setBits purpose b entries = some bits)
    (hlength : 8 * b.length = minimumStatusListEntries) (index : ℕ) : bits.length = b.length ∧
      (Bitstring.bit bits index = true ↔
        Bitstring.bit b index = true ∨ Listed purpose entries index) := by
  induction entries generalizing b with
  | nil =>
    cases h
    simp [Listed]
  | cons e entries ih =>
    rw [setBits] at h
    split at h
    swap
    · cases h
    next hin =>
    rw [inList, Bool.and_eq_true, decide_eq_true_eq, decide_eq_true_eq] at hin
    have hlisted : Listed purpose (e :: entries) index ↔
        (e.index = index ∧ isSet purpose e.status = true) ∨ Listed purpose entries index := by
      rw [Listed, List.exists_mem_cons_iff]
      rfl
    rw [hlisted, ← or_assoc]
    split at h
    · next hset =>
      obtain ⟨hbits, hiff⟩ := ih h (by rw [Bitstring.length_setBit, hlength])
      refine ⟨by rw [hbits, Bitstring.length_setBit], ?_⟩
      have hlt : e.index.toNat < 8 * b.length := by omega
      have heq : e.index.toNat = index ↔ e.index = index := by omega
      rw [hiff, Bitstring.bit_setBit hlt, Bool.or_eq_true, decide_eq_true_eq, heq,
        and_iff_left hset]
    · next hset =>
      obtain ⟨hbits, hiff⟩ := ih h hlength
      refine ⟨hbits, ?_⟩
      have hnot : ¬ (e.index = index ∧ isSet purpose e.status = true) := fun hand => hset hand.2
      rw [hiff, or_iff_left (b := _ ∧ _) hnot]

theorem bit_bitstring (h : bitstring purpose entries = some bits) (index : ℕ) :
    bits.length = 16384 ∧
      (Bitstring.bit bits index = true ↔ Listed purpose entries index) := by
  obtain ⟨hlength, hiff⟩ := bit_setBits h (by rw [List.length_replicate]; decide) index
  rw [List.length_replicate] at hlength
  rw [Bitstring.bit_replicate] at hiff
  exact ⟨hlength, hiff.trans (or_iff_right Bool.false_ne_true)⟩

/-! ### Encoding -/

theorem afterPrefix_append (p b : Binary) : afterPrefix p (p ++ b) = some b := by
  unfold afterPrefix
  rw [if_pos (by simp), List.drop_left]

theorem decodeMultibase_encodeList (compress : Binary → Binary) (bits : Binary) :
    BitstringStatusChecker.decodeMultibase (.str (encodeList compress bits)) =
      some (compress bits) := by
  have hbytes : bytes (encodeList compress bits) =
      bytes "u" ++ (encodeUrl64 (compress bits)).utf8 := by
    rw [encodeList, bytes_ofList]
    rfl
  rw [BitstringStatusChecker.decodeMultibase, hbytes, afterPrefix_append, Option.bind_some,
    decodeUrl64_encodeUrl64]

theorem decodeList_encodeList {V : StatusEnv} (gz : Gzip V.gunzip) (h : bits.length = 16384) :
    BitstringStatusChecker.decodeList V (.str (encodeList gz.compress bits)) = some bits := by
  have hsmall : (gz.compress bits).length ≤ BitstringStatusChecker.maxResponseBytes := by
    have hle := gz.length_compress_le bits
    rw [h] at hle
    exact Nat.le_trans hle (by decide)
  rw [BitstringStatusChecker.decodeList, decodeMultibase_encodeList, Option.bind_some,
    BitstringStatusChecker.gunzip, if_pos hsmall, gz.gunzip_compress, Option.filter_some,
    if_pos (by simpa using h)]

theorem determined_header (signer : Signer) : (header signer).Determined := by
  simp [header, Json.Determined, Json.DeterminedFields]

theorem determined_claims (issuerDID listURL purpose encodedList : String)
    (issuedAt : Hosted.Time) :
    (claims issuerDID listURL purpose encodedList issuedAt).Determined := by
  simp [claims, credential, subject, Json.Determined, Json.DeterminedFields, Json.DeterminedElems]

/-! ### Agreement -/

/-- The relay trusts the issuer of a list at its URL, and has fetched the list in time. -/
structure Pinned (V : StatusEnv) (signer : Signer) (issuerDID listURL : String)
    (list : IssuedStatusList) (now : Time) : Prop where
  allowed : TrustedMembershipIssuer.statusUrlAllowed V listURL = some true
  fetched : V.fetch listURL = some (bytes list.jwt)
  key : ∃ key, TrustedMembershipIssuer.resolve V (.str issuerDID) (.str signer.keyID) = some key ∧
    ∀ message signature, signer.sign message = some signature →
      V.ed25519Verify key message signature = true
  fresh : unixSeconds list.issuedAt ≤ BitstringStatusChecker.toUnix now + 30 ∧
    BitstringStatusChecker.toUnix now - 300 ≤ unixSeconds list.issuedAt

/-- An entry of a credential for an index of a list. -/
structure EntryOf (entry : Json) (listURL purpose : String) (index : ℕ) : Prop where
  purposed : entry.fetch "statusPurpose" = .str purpose
  indexed : entry.fetch "statusListIndex" = .str (toString index)
  url : entry.fetch "statusListCredential" = .str listURL

theorem EntryOf.readIndex {entry : Json} {index : ℕ} (h : EntryOf entry listURL purpose index) :
    BitstringStatusChecker.readIndex entry = some index := by
  have hdigits : chars (toString index) = Nat.toDigits 10 index := chars_ofList _
  rw [BitstringStatusChecker.readIndex, h.indexed]
  dsimp only [BitstringStatusChecker.toText, Option.bind_some]
  rw [hdigits, parseWhole_toDigits]

/-- What an issued list is. -/
structure Issued (sha256 : Binary → Binary) (compress : Binary → Binary) (signer : Signer)
    (issuerDID listURL purpose : String) (entries : List CredentialStatusEntry)
    (now : Hosted.Time) (list : IssuedStatusList) (bits : Binary) : Prop where
  purposed : purpose = "revocation" ∨ purpose = "suspension"
  bitstring : bitstring purpose entries = some bits
  encodedList : list.encodedList = encodeList compress bits
  issuedAt : list.issuedAt = now
  signed : ∃ signature,
    signer.sign (Jwt.unsigned GoJson.escapeChar (header signer)
      (claims issuerDID listURL purpose list.encodedList now)).utf8 = some signature ∧
    bytes list.jwt = (Jwt.compact GoJson.escapeChar (header signer)
      (claims issuerDID listURL purpose list.encodedList now) signature).utf8

theorem issued_of_issue {compress : Binary → Binary} {now : Hosted.Time} {list : IssuedStatusList}
    (h : issueBitstringStatusList sha256 compress (some signer) issuerDID listURL purpose entries
      now = some list) :
    ∃ bits, Issued sha256 compress signer issuerDID listURL purpose entries now list bits := by
  unfold issueBitstringStatusList at h
  dsimp only at h
  split at h
  · cases h
  next hvalid =>
  obtain ⟨bits, hbits, h⟩ := Option.bind_eq_some_iff.1 h
  obtain ⟨signature, hsignature, h⟩ := Option.bind_eq_some_iff.1 h
  cases h
  refine ⟨bits, ?_, hbits, rfl, rfl, signature, hsignature, bytes_ofList _⟩
  rw [not_or, not_or, not_and_or, not_not, not_not] at hvalid
  exact hvalid.2.2

theorem exists_setBits (purpose : String) (b : Binary) (h : ∀ e ∈ entries, inList e = true) :
    ∃ bits, setBits purpose b entries = some bits := by
  induction entries generalizing b with
  | nil => exact ⟨b, rfl⟩
  | cons e entries ih =>
    obtain ⟨he, hentries⟩ := List.forall_mem_cons.1 h
    rw [setBits, if_pos he]
    exact ih _ hentries

/-- A list is issued for such entries by a signer that does not fail. -/
theorem exists_issue {compress : Binary → Binary} {now : Hosted.Time} {sign : Binary → Binary}
    (hsign : ∀ message, signer.sign message = some (sign message)) (hissuer : issuerDID ≠ "")
    (hurl : listURL ≠ "") (hpurpose : purpose = "revocation" ∨ purpose = "suspension")
    (hentries : ∀ e ∈ entries, inList e = true) :
    ∃ list, issueBitstringStatusList sha256 compress (some signer) issuerDID listURL purpose
      entries now = some list := by
  obtain ⟨bits, hbits⟩ := exists_setBits purpose
    (List.replicate (minimumStatusListEntries / 8) 0) hentries
  have hvalid : ¬ (issuerDID = "" ∨ listURL = "" ∨
      purpose ≠ "revocation" ∧ purpose ≠ "suspension") := by
    rintro (h | h | ⟨hrevocation, hsuspension⟩)
    · exact hissuer h
    · exact hurl h
    · exact hpurpose.elim hrevocation hsuspension
  unfold issueBitstringStatusList
  dsimp only
  rw [if_neg hvalid, bitstring, hbits]
  dsimp only [Option.bind_eq_bind, Option.bind_some]
  rw [hsign]
  exact ⟨_, rfl⟩

/-- The relay finds the bits of the list at its URL. -/
theorem fetchBits_of_pinned {V : StatusEnv} (gz : Gzip V.gunzip) {issuedAt : Hosted.Time}
    {list : IssuedStatusList} {now : Time}
    (h : Issued sha256 gz.compress signer issuerDID listURL purpose entries issuedAt list bits)
    (hpinned : Pinned V signer issuerDID listURL list now) :
    BitstringStatusChecker.fetchBits V listURL purpose now = some bits := by
  obtain ⟨signature, hsignature, hjwt⟩ := h.signed
  obtain ⟨key, hkey, hverifies⟩ := hpinned.key
  have hdecode := Jwt.decodeJwt_compact GoJson.readBack_escapeChar (determined_header signer)
    (determined_claims issuerDID listURL purpose list.encodedList issuedAt) ⟨rfl, rfl⟩ signature
  have hbits := decodeList_encodeList gz (bit_bitstring h.bitstring 0).1
  rw [← h.encodedList] at hbits
  have hfresh : BitstringStatusChecker.fresh
      (claims issuerDID listURL purpose list.encodedList issuedAt) now = true := by
    have hclose := hpinned.fresh
    rw [h.issuedAt] at hclose
    show (decide _ && decide _) = true
    rw [decide_eq_true hclose.1, decide_eq_true (show _ - BitstringStatusChecker.maxAgeSeconds ≤ _
      from hclose.2)]
    rfl
  -- the list passes every check of the relay
  have hlist : BitstringStatusChecker.listBits V listURL purpose now
      ⟨header signer, claims issuerDID listURL purpose list.encodedList issuedAt,
        (Jwt.unsigned GoJson.escapeChar (header signer)
          (claims issuerDID listURL purpose list.encodedList issuedAt)).utf8, signature⟩ =
      some bits := by
    unfold BitstringStatusChecker.listBits
    have hkey' : TrustedMembershipIssuer.resolve V
        ((claims issuerDID listURL purpose list.encodedList issuedAt).fetch "iss")
        ((header signer).fetch "kid") = some key := hkey
    have hvc : (((claims issuerDID listURL purpose list.encodedList issuedAt).fetch "vc").fetch
        "id").eqv (.str listURL) = true := Json.eqv_str_right.2 rfl
    have hpurpose : ((((claims issuerDID listURL purpose list.encodedList issuedAt).fetch
        "vc").fetch "credentialSubject").fetch "statusPurpose").eqv (.str purpose) = true :=
      Json.eqv_str_right.2 rfl
    have halg : (((header signer).fetch "alg").eqv (.str "EdDSA") &&
        ((header signer).fetch "typ").eqv (.str "JWT")) = true := rfl
    simp only [halg, hkey', hverifies _ _ hsignature, hfresh, hvc, hpurpose, Bool.and_true, guard,
      if_true, Option.bind_eq_bind, Option.bind_some, Option.pure_def]
    exact hbits
  rw [BitstringStatusChecker.fetchBits, hpinned.allowed, hpinned.fetched, hjwt]
  simp only [guard, if_true, Option.bind_eq_bind, Option.pure_def, Option.bind_some, hdecode]
  exact hlist

/-- **The relay reads the bit of an index as set exactly when the issuer has recorded the status,
and its verdict on an entry of the list says so.**  Both sides count bits from the highest of each
byte; the rest is the round trip through base 64 and compression. -/
theorem status_list_agrees {V : StatusEnv} (gz : Gzip V.gunzip) {sha256 : Binary → Binary}
    {signer : Signer} {issuerDID listURL purpose : String}
    {entries : List CredentialStatusEntry} {issuedAt : Hosted.Time} {list : IssuedStatusList}
    (h : issueBitstringStatusList sha256 gz.compress (some signer) issuerDID listURL purpose
      entries issuedAt = some list) :
    (∃ bits, BitstringStatusChecker.decodeList V (.str list.encodedList) = some bits ∧
      ∀ index < minimumStatusListEntries,
        (BitstringStatusChecker.bitSet bits index = true ↔ Listed purpose entries index)) ∧
    ∀ now entry, ∀ index < minimumStatusListEntries,
      Pinned V signer issuerDID listURL list now → EntryOf entry listURL purpose index →
        (Listed purpose entries index → BitstringStatusChecker.checkEntry V now entry =
          BitstringStatusChecker.setStatus purpose) ∧
        (¬ Listed purpose entries index →
          BitstringStatusChecker.checkEntry V now entry = .active) := by
  obtain ⟨bits, hissued⟩ := issued_of_issue h
  have hbit := bit_bitstring hissued.bitstring
  have hlength := (hbit 0).1
  have hinside : ∀ index < minimumStatusListEntries, index < bits.length * 8 := by
    intro index hindex
    rw [hlength]
    exact hindex
  constructor
  · refine ⟨bits, ?_, fun index hindex => ?_⟩
    · rw [hissued.encodedList]
      exact decodeList_encodeList gz hlength
    · rw [BitstringStatusChecker.bitSet_eq_bit (hinside index hindex)]
      exact (hbit index).2
  · intro now entry index hindex hpinned hentry
    have hpurpose : purpose ∈ BitstringStatusChecker.purposes := by
      rcases hissued.purposed with rfl | rfl
      · exact List.mem_cons_self
      · exact List.mem_cons_of_mem _ List.mem_cons_self
    have hchecked : BitstringStatusChecker.Checked V now entry purpose index bits :=
      ⟨⟨hentry.purposed, hpurpose⟩, ⟨hentry.readIndex, hinside index hindex⟩,
        listURL, hentry.url, fetchBits_of_pinned gz hissued hpinned⟩
    rw [BitstringStatusChecker.checkEntry_of_checked hchecked]
    constructor
    · intro hlisted
      rw [if_pos ((hbit index).2.2 hlisted)]
    · intro hlisted
      rw [if_neg (mt (hbit index).2.1 hlisted)]

/-! ### A list with one entry -/

/-- A relay that has pinned the issuer, with what it fetches; nothing is compressed. -/
def toyRelay (jwt : Binary) : StatusEnv :=
  { BoardVpVerifier.toyListed with gunzip := some, fetch := fun _ => some jwt }

/-- Data that is left as it is. -/
def toyGzip (jwt : Binary) : Gzip (toyRelay jwt).gunzip where
  compress b := b
  gunzip_compress _ := rfl
  length_compress_le b := by omega

def toySign (message : Binary) : Binary := BoardVpVerifier.toyListKey ++ toyHash message

def toySigner : Signer :=
    ⟨"eddsa-jcs-2022", "did:web:a#key-1", fun message => some (toySign message)⟩

/-- 1 January 1970. -/
def toyEpoch : Hosted.Time := 62135596800000000000

def toyEntry (index : ℕ) : Json :=
  .obj [("statusPurpose", .str "revocation"), ("statusListIndex", .str (toString index)),
    ("statusListCredential", .str "https://a/1")]

theorem pinned_toyRelay {list : IssuedStatusList} (h : list.issuedAt = toyEpoch) :
    Pinned (toyRelay (bytes list.jwt)) toySigner "did:web:a" "https://a/1" list 0 where
  allowed :=
    show TrustedMembershipIssuer.statusUrlAllowed (toyRelay []) _ = _ by decide +kernel
  fetched := rfl
  key := by
    have hkey : TrustedMembershipIssuer.resolve (toyRelay []) (.str "did:web:a")
        (.str "did:web:a#key-1") = some BoardVpVerifier.toyListKey := by decide +kernel
    refine ⟨_, hkey, ?_⟩
    intro message signature hsign
    cases hsign
    exact beq_self_eq_true (toySign message)
  fresh := by
    rw [h]
    decide

/-- The credential of index 8 is revoked, and that of index 9 is not; the relay has fetched the
list. -/
theorem status_list_agrees_toy : ∃ list, issueBitstringStatusList (fun b => b)
      (toyGzip []).compress (some toySigner) "did:web:a" "https://a/1" "revocation"
      [⟨8, "revoked"⟩] toyEpoch = some list ∧
    (∃ bits, BitstringStatusChecker.decodeList (toyRelay (bytes list.jwt)) (.str list.encodedList) =
        some bits ∧
      ∀ index < minimumStatusListEntries, (BitstringStatusChecker.bitSet bits index = true ↔
        Listed "revocation" [⟨8, "revoked"⟩] index)) ∧
    BitstringStatusChecker.checkEntry (toyRelay (bytes list.jwt)) 0 (toyEntry 8) = .revoked ∧
    BitstringStatusChecker.checkEntry (toyRelay (bytes list.jwt)) 0 (toyEntry 9) = .active := by
  have hsign : ∀ message, toySigner.sign message = some (toySign message) := fun _ => rfl
  obtain ⟨list, h⟩ : ∃ list, issueBitstringStatusList (fun b => b) (toyGzip []).compress
      (some toySigner) "did:web:a" "https://a/1" "revocation" [⟨8, "revoked"⟩] toyEpoch =
        some list :=
    exists_issue hsign (by decide) (by decide) (.inl rfl) (by decide)
  obtain ⟨bits, hissued⟩ := issued_of_issue h
  obtain ⟨hbits, hentries⟩ := status_list_agrees (toyGzip (bytes list.jwt)) h
  have hpinned := pinned_toyRelay hissued.issuedAt
  refine ⟨list, h, hbits, (hentries 0 _ 8 (by decide) hpinned ⟨rfl, rfl, rfl⟩).1 ?_,
    (hentries 0 _ 9 (by decide) hpinned ⟨rfl, rfl, rfl⟩).2 ?_⟩
  · exact ⟨_, List.mem_singleton_self _, rfl, rfl⟩
  · rintro ⟨e, he, hindex, -⟩
    rw [List.mem_singleton.1 he] at hindex
    exact absurd hindex (by decide)

end StatusList

end Ansible
