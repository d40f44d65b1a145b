import Ansible.Lib.Uri
import Ansible.Relay.Reputation

/-!
# The signature of a request to an inbox

A request names the key that it is signed with by a URL.  The relay fetches the document behind
it, looks for the key, and accepts the request as one of the actor that owns the key by the word
of that document.

## Main definitions

* `InboundHttpSignature.verify` — the checks in their order, and the store against replays.

## Main results

* `verify_eq_ok` — **what an accepted request has passed.**
* `inbound_authenticity` — **a request is authentic exactly when its key is of the actor's
  origin.**
-/

namespace Ansible

/-- A request as the web server hands it over. -/
structure InboundConn where
  method : String
  requestPath : String
  queryString : String
  scheme : String
  host : String
  port : ℕ
  reqHeaders : List (String × String)
  rawBody : Binary

inductive HttpSignatureError
  | actorKeyMismatch
  | missingHttpSignature
  | malformedHttpSignature
  | unsignedRequiredHeader
  | missingDigest
  | digestMismatch
  | invalidDigest
  | unsupportedDigest
  | missingDate
  | staleHttpSignature
  | invalidDate
  | unsafeKeyHost
  | invalidKeyId
  | actorDocumentUnavailable
  | invalidActorDocument
  | keyNotFound
  | invalidPublicKey
  | signedHeaderMissing
  | badHttpSignature
  | replayedHttpSignature
  | replayStoreFailed
  | invalidHttpSignature
  /-- The request fails with an exception. -/
  | raised
  deriving DecidableEq, Repr

/-- A signature header that has been read. -/
structure HttpSignature where
  keyId : String
  bytes : Binary
  headers : List String

/-- Primitives that the verification rests on. -/
structure HttpSignatureEnv extends Platform where
  /-- `String.downcase` -/
  downcase : String → String
  /-- `:httpd_util.convert_request_date` -/
  requestDate : String → Option Time
  /-- `public_host`: all addresses of the host are public. -/
  publicHost : Text → Bool
  /-- The key of a PEM text, by what it says of a message and a signature; a key of another kind
  raises, for which `none` stands. -/
  publicKey : String → Option (Binary → Binary → Option Bool)

/-- A row of `activity_pub_inbound_receipts`. -/
structure InboundReceipt where
  signatureHash : String
  actorUri : String
  keyId : String
  expiresAt : Time

abbrev ReceiptTable := Table InboundReceipt (UniqueOn (·.signatureHash) fun _ => true)

structure VerifiedActor where
  actorUri : String
  keyId : String
  deriving DecidableEq, Repr

/-- The documents that servers answer with, by URL. -/
abbrev Web := String → Option Json

namespace InboundHttpSignature

variable (E : HttpSignatureEnv)

/-! ### Headers -/

/-- `authority` -/
def authority (conn : InboundConn) : String :=
  if (conn.scheme = "http" ∧ conn.port = 80) ∨ (conn.scheme = "https" ∧ conn.port = 443) then
    conn.host
  else conn.host ++ ":" ++ String.ofList (Nat.toDigits 10 conn.port)

/-- A header that comes again is appended to the one before. -/
def addHeader (headers : List (String × String)) (header : String × String) :
    List (String × String) :=
  let name := E.downcase header.1
  match headers.lookup name with
  | none => headers ++ [(name, header.2)]
  | some _ => headers.map fun h => if h.1 = name then (h.1, h.2 ++ ", " ++ header.2) else h

def normalizedHeaders (conn : InboundConn) : List (String × String) :=
  let headers := conn.reqHeaders.foldl (addHeader E) []
  if (headers.lookup "host").isSome then headers else headers ++ [("host", authority conn)]

/-! ### The signature header -/

/-- `"Signature " <> value`, as often as it stands there. -/
def dropScheme : Text → Text
  | 'S' :: 'i' :: 'g' :: 'n' :: 'a' :: 't' :: 'u' :: 'r' :: 'e' :: ' ' :: rest => dropScheme rest
  | text => text

/-- The matches of `([a-zA-Z]+)="([^"]*)"`, from left to right; `fuel` bounds the length of the
text. -/
def scanAttrs : (fuel : ℕ) → Text → List (Text × Text)
  | 0, _ => []
  | _ + 1, [] => []
  | fuel + 1, c :: text =>
    match (c :: text).span Uri.isLetter with
    | ([], _) => scanAttrs fuel text
    | (key, '=' :: '"' :: rest) =>
      match rest.span (· ≠ '"') with
      | (entry, '"' :: rest) => (key, entry) :: scanAttrs fuel rest
      | _ => []
    | (_, rest) => scanAttrs fuel rest

/-- The attributes by name; the last one of a name counts. -/
def attrs (value : Text) : List (String × String) :=
  ((scanAttrs value.length value).map fun kv =>
    (String.ofList (kv.1.map Char.toLower), String.ofList kv.2)).reverse

/-- `\s` -/
def isSpace (c : Char) : Bool := decide (c = ' ') || decide (9 ≤ c.toNat ∧ c.toNat ≤ 13)

def splitSpaces (value : String) : List String :=
  (((chars value).splitOnP isSpace).filter (· ≠ [])).map String.ofList

def readSignature (value : String) : Option HttpSignature := do
  let found := attrs (dropScheme (chars value))
  let keyId ← found.lookup "keyid"
  if keyId = "" then none
  let encoded ← found.lookup "signature"
  if encoded = "" then none
  let signed ← decode64 (bytes encoded)
  let headers ← found.lookup "headers"
  if E.downcase ((found.lookup "algorithm").getD "") ∉ ["rsa-sha256", "hs2019"] then none
  return { keyId, bytes := signed, headers := splitSpaces (E.downcase headers) }

def parseSignature : Option String → Except HttpSignatureError HttpSignature
  | none => .error .missingHttpSignature
  | some value =>
    match readSignature E value with
    | some signature => .ok signature
    | none => .error .malformedHttpSignature

/-! ### The checks -/

def requiredSigned : List String := ["(request-target)", "host", "date", "digest"]

def digestPrefix : Text := "SHA-256=".toList

def verifyDigest (rawBody : Binary) : Option String → Except HttpSignatureError Unit
  | none => .error .missingDigest
  | some value =>
    if !digestPrefix.isPrefixOf (chars value) then .error .unsupportedDigest
    else
      match decode64 ((bytes value).drop 8) with
      | none => .error .invalidDigest
      | some actual =>
        if actual.length ≠ 32 then .error .invalidDigest
        else ensure (actual == E.sha256 rawBody) .digestMismatch

def defaultSkewSeconds : ℤ := 300

/-- The clock and the date of the request are compared in seconds. -/
def verifyDate (now : Time) : Option String → Except HttpSignatureError Unit
  | none => .error .missingDate
  | some value =>
    match E.requestDate value with
    | none => .error .invalidDate
    | some requestTime =>
      ensure (decide ((now / 1000000 - requestTime / 1000000).natAbs ≤ defaultSkewSeconds))
        .staleHttpSignature

/-- The URL of a key id: what stands before the fragment. -/
def keyUrl (keyId : String) : String := String.ofList ((chars keyId).takeWhile (· ≠ '#'))

def fetchKeyDocument (web : Web) (keyId : String) : Except HttpSignatureError Json :=
  match Uri.httpsHost keyId with
  | none => .error .invalidKeyId
  | some host =>
    if !E.publicHost host then .error .unsafeKeyHost
    else
      match web (keyUrl keyId) with
      | none => .error .actorDocumentUnavailable
      | some (.obj fields) => .ok (.obj fields)
      | some _ => .error .invalidActorDocument

/-- The first entry with the id; an entry that is neither an object nor `null` raises. -/
def findKey (keyId : String) : List Json → Except HttpSignatureError Json
  | [] => .error .keyNotFound
  | .null :: rest => findKey keyId rest
  | .obj fields :: rest =>
    if ((Json.obj fields).fetch "id").eqv (.str keyId) then .ok (.obj fields)
    else findKey keyId rest
  | _ :: _ => .error .raised

/-- The PEM text and the owner of the key, by the word of the document. -/
def resolveKey (document : Json) (keyId : String) :
    Except HttpSignatureError (String × String) := do
  let key ← findKey keyId (Reputation.wrap (document.fetch "publicKey"))
  match key.fetch "publicKeyPem", key.fetch "owner" with
  | .str pem, .str owner => .ok (pem, owner)
  | _, _ => .error .keyNotFound

def signingLine (conn : InboundConn) (headers : List (String × String)) (name : String) :
    Option String :=
  if name = "(request-target)" then
    let query := if conn.queryString = "" then "" else "?" ++ conn.queryString
    some ("(request-target): " ++ E.downcase conn.method ++ " " ++ conn.requestPath ++ query)
  else (headers.lookup name).map fun value => name ++ ": " ++ value

def signingString (conn : InboundConn) (headers : List (String × String)) (signed : List String) :
    Option String :=
  (signed.mapM (signingLine E conn headers)).map ("\n".intercalate ·)

def verifyCrypto (conn : InboundConn) (headers : List (String × String))
    (signature : HttpSignature) (pem : String) : Except HttpSignatureError Unit :=
  match E.publicKey pem with
  | none => .error .invalidPublicKey
  | some verifies =>
    match signingString E conn headers signature.headers with
    | none => .error .signedHeaderMissing
    | some text =>
      match verifies (bytes text) signature.bytes with
      | some valid => ensure valid .badHttpSignature
      | none => .error .raised

def replayTtlSeconds : ℤ := 600

def signatureHash (signature : HttpSignature) : String :=
  String.ofList (encode16 (E.sha256 signature.bytes))

/-- A signature is accepted once. -/
def consumeReplay (now : Time) (signature : HttpSignature) (actorUri : String)
    (receipts : ReceiptTable) : Except HttpSignatureError Unit × ReceiptTable :=
  let receipts := receipts.remove fun r => decide (r.expiresAt < now)
  if [actorUri, signature.keyId].any isBlank then (.error .replayStoreFailed, receipts)
  else if !([actorUri, signature.keyId].all fitsVarchar) then (.error .raised, receipts)
  else
    match receipts.insert
        { signatureHash := signatureHash E signature, actorUri, keyId := signature.keyId
          expiresAt := now + seconds replayTtlSeconds } with
    | none => (.error .replayedHttpSignature, receipts)
    | some receipts => (.ok (), receipts)

/-- The actor that the activity names. -/
def actorOf (activity : Json) : Except HttpSignatureError String :=
  match activity.fetch "actor" with
  | .str actorUri => if actorUri = "" then .error .actorKeyMismatch else .ok actorUri
  | _ => .error .actorKeyMismatch

def signatureOf (conn : InboundConn) : Except HttpSignatureError HttpSignature :=
  let headers := normalizedHeaders E conn
  parseSignature E ((headers.lookup "signature").or (headers.lookup "authorization"))

/-- What is checked before the replay store is asked. -/
def check (web : Web) (now : Time) (conn : InboundConn) (activity : Json) :
    Except HttpSignatureError (String × HttpSignature) := do
  let headers := normalizedHeaders E conn
  ensure activity.isObj .invalidHttpSignature
  let actorUri ← actorOf activity
  let signature ← signatureOf E conn
  ensure (requiredSigned.all (signature.headers.contains ·)) .unsignedRequiredHeader
  verifyDigest E conn.rawBody (headers.lookup "digest")
  verifyDate E now (headers.lookup "date")
  let document ← fetchKeyDocument E web signature.keyId
  let key ← resolveKey document signature.keyId
  ensure (key.2 == actorUri) .actorKeyMismatch
  verifyCrypto E conn headers signature key.1
  return (actorUri, signature)

def verify (web : Web) (now : Time) (conn : InboundConn) (activity : Json)
    (receipts : ReceiptTable) : Except HttpSignatureError VerifiedActor × ReceiptTable :=
  match check E web now conn activity with
  | .error e => (.error e, receipts)
  | .ok (actorUri, signature) =>
    match consumeReplay E now signature actorUri receipts with
    | (.error e, receipts) => (.error e, receipts)
    | (.ok (), receipts) => (.ok { actorUri, keyId := signature.keyId }, receipts)

/-! ### What an accepted request has passed -/

/-- A request that some document for its key could get accepted at some time. -/
structure Acceptable (conn : InboundConn) (activity : Json) (actorUri : String)
    (signature : HttpSignature) : Prop where
  isObj : activity.isObj = true
  actor : actorOf activity = .ok actorUri
  read : signatureOf E conn = .ok signature
  signed : requiredSigned.all (signature.headers.contains ·) = true
  digest : verifyDigest E conn.rawBody ((normalizedHeaders E conn).lookup "digest") = .ok ()
  date : ∃ now, verifyDate E now ((normalizedHeaders E conn).lookup "date") = .ok ()
  host : ∃ host, Uri.httpsHost signature.keyId = some host ∧ E.publicHost host = true
  key : ∃ pem, verifyCrypto E conn (normalizedHeaders E conn) signature pem = .ok ()
  storable : ∀ s ∈ [actorUri, signature.keyId], isBlank s = false ∧ fitsVarchar s = true

variable {E} {web web' : Web} {now : Time} {conn : InboundConn} {activity : Json}
  {receipts : ReceiptTable} {signature : HttpSignature}

theorem fetchKeyDocument_eq_ok {keyId : String} {document : Json}
    (h : fetchKeyDocument E web keyId = .ok document) :
    (∃ host, Uri.httpsHost keyId = some host ∧ E.publicHost host = true) ∧
      web (keyUrl keyId) = some document := by
  unfold fetchKeyDocument at h
  split at h
  · cases h
  next host hhost =>
  split at h
  · cases h
  next hpublic =>
  split at h
  · cases h
  · next fields hweb =>
    cases h
    exact ⟨⟨host, hhost, by simpa using hpublic⟩, hweb⟩
  · cases h

theorem findKey_mem {keyId : String} {keys : List Json} {key : Json}
    (h : findKey keyId keys = .ok key) : key ∈ keys := by
  induction keys with
  | nil => cases h
  | cons entry rest ih =>
    cases entry with
    | null => exact List.mem_cons_of_mem _ (ih h)
    | obj fields =>
      rw [findKey] at h
      split at h
      · cases h
        exact List.mem_cons_self
      · exact List.mem_cons_of_mem _ (ih h)
    | _ => cases h

theorem resolveKey_eq_ok {document : Json} {keyId pem owner : String}
    (h : resolveKey document keyId = .ok (pem, owner)) :
    ∃ key ∈ Reputation.wrap (document.fetch "publicKey"), key.fetch "publicKeyPem" = .str pem := by
  obtain ⟨key, hkey, h⟩ := bind_eq_ok.1 h
  refine ⟨key, findKey_mem hkey, ?_⟩
  split at h
  · next hpem _ =>
    cases h
    exact hpem
  · cases h

theorem consumeReplay_eq_ok {actorUri : String}
    (h : (consumeReplay E now signature actorUri receipts).1 = .ok ()) :
    ∀ s ∈ [actorUri, signature.keyId], isBlank s = false ∧ fitsVarchar s = true := by
  unfold consumeReplay at h
  dsimp only at h
  split at h
  · cases h
  next hblank =>
  split at h
  · cases h
  next hfits =>
  rw [Bool.not_eq_true, List.any_eq_false] at hblank
  rw [Bool.not_eq_true', Bool.not_eq_false, List.all_eq_true] at hfits
  intro s hs
  exact ⟨by simpa using hblank s hs, hfits s hs⟩

/-- **What an accepted request has passed.** -/
theorem verify_eq_ok {v : VerifiedActor}
    (h : (verify E web now conn activity receipts).1 = .ok v) :
    ∃ signature document pem, Acceptable E conn activity v.actorUri signature ∧
      web (keyUrl signature.keyId) = some document ∧
      resolveKey document signature.keyId = .ok (pem, v.actorUri) ∧
      verifyCrypto E conn (normalizedHeaders E conn) signature pem = .ok () := by
  unfold verify at h
  cases hcheck : check E web now conn activity with
  | error e =>
    rw [hcheck] at h
    cases h
  | ok found =>
    obtain ⟨actorUri, signature⟩ := found
    rw [hcheck] at h
    dsimp only at h
    have hconsume : (consumeReplay E now signature actorUri receipts).1 = .ok () := by
      generalize consumeReplay E now signature actorUri receipts = r at h
      obtain ⟨_ | _, _⟩ := r
      · cases h
      · rfl
    have hstorable := consumeReplay_eq_ok hconsume
    have hv : v = { actorUri, keyId := signature.keyId } := by
      generalize consumeReplay E now signature actorUri receipts = r at h
      obtain ⟨_ | _, _⟩ := r
      · cases h
      · cases h
        rfl
    subst hv
    -- the checks, in their order
    obtain ⟨_, hobj, hcheck⟩ := bind_eq_ok.1 hcheck
    obtain ⟨actor, hactor, hcheck⟩ := bind_eq_ok.1 hcheck
    obtain ⟨sig, hsig, hcheck⟩ := bind_eq_ok.1 hcheck
    obtain ⟨_, hsigned, hcheck⟩ := bind_eq_ok.1 hcheck
    obtain ⟨_, hdigest, hcheck⟩ := bind_eq_ok.1 hcheck
    obtain ⟨_, hdate, hcheck⟩ := bind_eq_ok.1 hcheck
    obtain ⟨document, hdocument, hcheck⟩ := bind_eq_ok.1 hcheck
    obtain ⟨⟨pem, owner⟩, hkey, hcheck⟩ := bind_eq_ok.1 hcheck
    obtain ⟨_, howner, hcheck⟩ := bind_eq_ok.1 hcheck
    obtain ⟨_, hcrypto, hcheck⟩ := bind_eq_ok.1 hcheck
    cases hcheck
    obtain ⟨hhost, hweb⟩ := fetchKeyDocument_eq_ok hdocument
    obtain rfl : owner = actorUri := beq_iff_eq.1 (ensure_eq_ok.1 howner)
    refine ⟨_, document, pem, ?_, hweb, hkey, hcrypto⟩
    exact {
      isObj := ensure_eq_ok.1 hobj
      actor := hactor
      read := hsig
      signed := ensure_eq_ok.1 hsigned
      digest := hdigest
      date := ⟨now, hdate⟩
      host := hhost
      key := ⟨pem, hcrypto⟩
      storable := hstorable }

/-- A document that says that the actor owns the key. -/
def keyDocument (keyId owner pem : String) : Json :=
  .obj [("publicKey", .obj [("id", .str keyId), ("owner", .str owner),
    ("publicKeyPem", .str pem)])]

theorem resolveKey_keyDocument (keyId owner pem : String) :
    resolveKey (keyDocument keyId owner pem) keyId = .ok (pem, owner) := by
  have hfind : findKey keyId (Reputation.wrap ((keyDocument keyId owner pem).fetch "publicKey")) =
      .ok (.obj [("id", .str keyId), ("owner", .str owner), ("publicKeyPem", .str pem)]) :=
    if_pos (Json.eqv_str_right.2 rfl)
  rw [resolveKey, hfind]
  rfl

/-- The store is empty before the first request. -/
def noReceipts : ReceiptTable := ⟨[], by decide⟩

theorem consumeReplay_noReceipts {actorUri : String}
    (h : ∀ s ∈ [actorUri, signature.keyId], isBlank s = false ∧ fitsVarchar s = true) :
    (consumeReplay E now signature actorUri noReceipts).1 = .ok () := by
  have hblank : [actorUri, signature.keyId].any isBlank = false :=
    List.any_eq_false.2 fun s hs => by simp [(h s hs).1]
  have hfits : [actorUri, signature.keyId].all fitsVarchar = true :=
    List.all_eq_true.2 fun s hs => (h s hs).2
  unfold consumeReplay
  dsimp only
  rw [hblank, hfits, if_neg Bool.false_ne_true, if_neg (by decide)]
  have hnew : ∀ r : InboundReceipt, ((noReceipts.remove fun r => decide (r.expiresAt < now)).insert
      r).isSome = true := fun r => Table.commit_isSome.2 (List.nodup_singleton _)
  obtain ⟨t, ht⟩ := Option.isSome_iff_exists.1 (hnew
    { signatureHash := signatureHash E signature, actorUri, keyId := signature.keyId
      expiresAt := now + seconds replayTtlSeconds })
  rw [ht]

/-- **The document that gets a request accepted, whoever serves it.** -/
theorem verify_of_acceptable {actorUri pem : String}
    (h : Acceptable E conn activity actorUri signature)
    (hdate : verifyDate E now ((normalizedHeaders E conn).lookup "date") = .ok ())
    (hcrypto : verifyCrypto E conn (normalizedHeaders E conn) signature pem = .ok ())
    (hweb : web (keyUrl signature.keyId) = some (keyDocument signature.keyId actorUri pem)) :
    (verify E web now conn activity noReceipts).1 =
      .ok { actorUri, keyId := signature.keyId } := by
  obtain ⟨host, hhost, hpublic⟩ := h.host
  have hfetch : fetchKeyDocument E web signature.keyId =
      .ok (keyDocument signature.keyId actorUri pem) := by
    rw [fetchKeyDocument, hhost]
    dsimp only
    rw [hpublic, hweb]
    rfl
  have hcheck : check E web now conn activity = .ok (actorUri, signature) := by
    refine bind_eq_ok.2 ⟨(), ensure_eq_ok.2 h.isObj, ?_⟩
    refine bind_eq_ok.2 ⟨actorUri, h.actor, ?_⟩
    refine bind_eq_ok.2 ⟨signature, h.read, ?_⟩
    refine bind_eq_ok.2 ⟨(), ensure_eq_ok.2 h.signed, ?_⟩
    refine bind_eq_ok.2 ⟨(), h.digest, ?_⟩
    refine bind_eq_ok.2 ⟨(), hdate, ?_⟩
    refine bind_eq_ok.2 ⟨_, hfetch, ?_⟩
    refine bind_eq_ok.2 ⟨(pem, actorUri), resolveKey_keyDocument _ _ _, ?_⟩
    refine bind_eq_ok.2 ⟨(), ensure_eq_ok.2 (beq_self_eq_true actorUri), ?_⟩
    exact bind_eq_ok.2 ⟨(), hcrypto, rfl⟩
  have hconsume : (consumeReplay E now signature actorUri noReceipts).1 = .ok () :=
    consumeReplay_noReceipts h.storable
  rw [verify, hcheck]
  dsimp only
  generalize consumeReplay E now signature actorUri noReceipts = r at hconsume
  obtain ⟨result, t⟩ := r
  dsimp only at hconsume
  rw [hconsume]

/-- The servers matter by one document, that of the key. -/
theorem verify_congr (hsignature : signatureOf E conn = .ok signature)
    (hweb : web (keyUrl signature.keyId) = web' (keyUrl signature.keyId)) :
    verify E web now conn activity receipts = verify E web' now conn activity receipts := by
  have hfetch : fetchKeyDocument E web signature.keyId =
      fetchKeyDocument E web' signature.keyId := by
    rw [fetchKeyDocument, fetchKeyDocument, hweb]
  have hcheck : check E web now conn activity = check E web' now conn activity := by
    have hbind : ∀ f : HttpSignature → Except HttpSignatureError (String × HttpSignature),
        (Except.ok signature >>= f) = f signature := fun _ => rfl
    simp only [check, hsignature, hbind, hfetch]
  rw [verify, verify, hcheck]

/-! ### The origin of an actor -/

/-- A document of the actor's own origin lists the key that the request is signed with. -/
def SignedFrom (E : HttpSignatureEnv) (web : Web) (conn : InboundConn) (actorUri : String) :
    Prop :=
  ∃ url document key pem signature, Uri.origin url = Uri.origin actorUri ∧
    web url = some document ∧ key ∈ Reputation.wrap (document.fetch "publicKey") ∧
    key.fetch "publicKeyPem" = .str pem ∧ signatureOf E conn = .ok signature ∧
    verifyCrypto E conn (normalizedHeaders E conn) signature pem = .ok ()

/-- A request is accepted on the word of the actor's own origin only. -/
structure Authentic (E : HttpSignatureEnv) (conn : InboundConn) (activity : Json) : Prop where
  signed : ∀ web now receipts v, (verify E web now conn activity receipts).1 = .ok v →
    SignedFrom E web conn v.actorUri
  /-- What servers of other origins answer makes no difference. -/
  independent : ∀ web web' now receipts v,
    (∀ url, Uri.origin url = Uri.origin v.actorUri → web url = web' url) →
    (verify E web now conn activity receipts).1 = .ok v →
    (verify E web' now conn activity receipts).1 = .ok v

/-- The key of an acceptable request is named by a URL of the actor's origin. -/
def OwnOrigin (E : HttpSignatureEnv) (conn : InboundConn) (activity : Json) : Prop :=
  ∀ actorUri signature, Acceptable E conn activity actorUri signature →
    Uri.origin (keyUrl signature.keyId) = Uri.origin actorUri

/-- **A request is authentic exactly when its key is of the actor's origin.**  The owner is a
member of the document at the URL of the key, and for a foreign origin a server is made up here
that answers with a document naming the actor. -/
theorem inbound_authenticity (E : HttpSignatureEnv) (conn : InboundConn) (activity : Json) :
    Authentic E conn activity ↔ OwnOrigin E conn activity := by
  constructor
  · intro h actorUri signature hacceptable
    obtain ⟨now, hdate⟩ := hacceptable.date
    obtain ⟨pem, hcrypto⟩ := hacceptable.key
    -- one server answers, with the document of the key
    let web : Web := fun url => if url = keyUrl signature.keyId then
      some (keyDocument signature.keyId actorUri pem) else none
    have haccepted : (verify E web now conn activity noReceipts).1 =
        .ok { actorUri, keyId := signature.keyId } :=
      verify_of_acceptable hacceptable hdate hcrypto (if_pos rfl)
    obtain ⟨url, document, key, pem', sig, horigin, hweb, -⟩ := h.signed _ _ _ _ haccepted
    have hurl : url = keyUrl signature.keyId := by
      by_contra hne
      have hnone : web url = none := if_neg hne
      rw [hnone] at hweb
      cases hweb
    rw [← hurl]
    exact horigin
  · intro h
    constructor
    · intro web now receipts v hok
      obtain ⟨signature, document, pem, hacceptable, hweb, hkey, hcrypto⟩ := verify_eq_ok hok
      obtain ⟨key, hmem, hpem⟩ := resolveKey_eq_ok hkey
      exact ⟨_, document, key, pem, signature, h _ _ hacceptable, hweb, hmem, hpem,
        hacceptable.read, hcrypto⟩
    · intro web web' now receipts v hagree hok
      obtain ⟨signature, -, -, hacceptable, -⟩ := verify_eq_ok hok
      rw [← verify_congr hacceptable.read (hagree _ (h _ _ hacceptable))]
      exact hok

/-! ### A key of another server -/

/-- A platform for worked examples: a signature is the hash of the message. -/
def HttpSignatureEnv.toy : HttpSignatureEnv where
  toPlatform := .toy
  downcase s := String.ofList ((chars s).map Char.toLower)
  requestDate _ := some 0
  publicHost _ := true
  publicKey _ := some fun message signature => some (signature == toyHash message)

def toyActivity : Json := .obj [("type", .str "Follow"), ("actor", .str "https://b.example/bob")]

/-- Signed with the key of another server. -/
def toyConn : InboundConn where
  method := "POST"
  requestPath := "/users/alice/inbox"
  queryString := ""
  scheme := "https"
  host := "relay.example"
  port := 443
  reqHeaders := [("date", "today"),
    ("digest", "SHA-256=AAAAAAAAAAAAAAAAAAAAAAAAAAAAAAAAAAAAAAAAAAA="),
    ("signature", "keyId=\"https://m.example/key\",algorithm=\"rsa-sha256\"," ++
      "headers=\"(request-target) host date digest\"," ++
      "signature=\"PUFBQUFBQUFBQUFBQUFBQUFBQUFBQUFBQUFBQUFBQUE=\"")]
  rawBody := []

/-- The other server says that the key is Bob's. -/
def toyWeb : Web := fun url => if url = "https://m.example/key" then
  some (keyDocument "https://m.example/key" "https://b.example/bob" "key") else none

/-- The request is accepted as one of Bob, whose server answers nothing. -/
theorem key_of_another_server : ¬ Authentic HttpSignatureEnv.toy toyConn toyActivity := by
  intro h
  have haccepted : (verify HttpSignatureEnv.toy toyWeb 0 toyConn toyActivity noReceipts).1 =
      .ok ⟨"https://b.example/bob", "https://m.example/key"⟩ := by decide +kernel
  obtain ⟨url, document, -, -, -, horigin, hweb, -⟩ := h.signed _ _ _ _ haccepted
  unfold toyWeb at hweb
  split at hweb
  · next hurl =>
    rw [hurl] at horigin
    exact absurd horigin (by decide +kernel)
  · cases hweb

end InboundHttpSignature

end Ansible
