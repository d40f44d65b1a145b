import Ansible.Lib.Base64
import Ansible.Lib.Checks
import Ansible.Lib.Run
import Mathlib.Data.List.Nodup

/-!
# Initial messages

The messenger's part of the Rust core: devices with an identity key, a signed pre-key and one-time
pre-keys, the encryption of a first message for a bundle of another device, and its decryption.
The session is set up from four agreements: of the sender's identity key and an ephemeral key with
the keys of the bundle.

The curve, the key derivation, the cipher and the text of envelopes are the parameters
`Primitives`.  A device is changed by a decryption that succeeds, and all checks precede the change.

## Main definitions

* `Primitives`, `Primitives.Lawful` — what is used of the libraries, and what is relied on.
* `MessengerDevice`, `createMessengerDevice`, `generateOneTimePreKeys` — devices.
* `encryptInitialMessage`, `decryptInboundMessage` — the two ends of a message.
* `Reachable`, `MessengerDevice.Sound` — the devices that the core makes, and what holds of them.

## Main results

* `Reachable.sound` — **every device that the core makes is sound.**
* `decryptInboundMessage_encrypt` — **a message is decrypted by the device it was made for**, which
  derives the same session key.
-/

namespace Ansible

namespace Messenger

/-- The keys of the curve, and what two of them agree on. -/
abbrev Key := {k : Binary // k.length = 32}

/-! ### Records -/

structure MessengerPreKey where
  preKeyId : ℕ
  publicKey : String
  privateKey : String
  deriving DecidableEq

structure MessengerDevice where
  subjectDid : String
  deviceId : String
  identityKeyPublic : String
  identityKeyPrivate : String
  signedPreKeyId : ℕ
  signedPreKeyPublic : String
  signedPreKeyPrivate : String
  signedPreKeySignature : String
  sessionState : Option String
  oneTimePreKeys : List MessengerPreKey
  nextPreKeyId : ℕ

structure MessengerPreKeyBundle where
  subjectDid : String
  deviceId : String
  identityKey : String
  signedPreKeyId : ℕ
  signedPreKey : String
  signedPreKeySignature : String
  oneTimePreKeyId : ℕ
  oneTimePreKey : String

structure MessengerCiphertext where
  protocolVersion : String
  ciphertextType : String
  ciphertext : Binary
  updatedSessionState : String

structure MessengerPlaintext where
  body : Binary
  updatedSessionState : String

structure InitialMessageEnvelope where
  protocolVersion : String
  ciphertextType : String
  senderDid : String
  senderDeviceId : String
  senderIdentityKey : String
  recipientDid : String
  recipientDeviceId : String
  signedPreKeyId : ℕ
  oneTimePreKeyId : ℕ
  ephemeralKey : String
  nonce : String
  body : String

structure SessionState where
  protocolVersion : String
  role : String
  localDid : String
  localDeviceId : String
  remoteDid : String
  remoteDeviceId : String
  rootKey : String

inductive MessengerError
  | subjectDidRequired
  | preKeyIdExhausted
  | plaintextRequired
  | encryptFailed
  | protocolVersionUnsupported
  | ciphertextTypeUnsupported
  | ciphertextDecodeFailed
  | ciphertextHeaderInvalid
  | ciphertextRecipientMismatch
  | oneTimePreKeyMissing
  | base64DecodeFailed
  | keyLengthInvalid
  | decryptFailed
  deriving DecidableEq, Repr

def protocolVersion : String := "signal-mvp-v1"

def ciphertextType : String := "pre_key_signal_message"

def rootKeyInfo : Binary := bytes "ansible messenger signal-mvp-v1 root key"

def aeadKeyInfo : Binary := bytes "ansible messenger signal-mvp-v1 aead key"

def sessionStateInfo : Binary := bytes "ansible messenger signal-mvp-v1 session state"

/-! ### Libraries -/

/-- X25519, HKDF and SHA-256, XChaCha20-Poly1305, and the JSON texts of records. -/
structure Primitives where
  publicKey : Key → Key
  diffieHellman : (secret publicKey : Key) → Key
  hkdf : (salt material info : Binary) → Binary
  sha256 : Binary → Binary
  encrypt : (key nonce aad msg : Binary) → Option Binary
  decrypt : (key nonce aad ciphertext : Binary) → Option Binary
  toVec : InitialMessageEnvelope → Binary
  fromSlice : Binary → Option InitialMessageEnvelope
  sessionText : SessionState → String

/-- What is relied on: two secrets agree in both orders, a box opens as it was sealed, and an
envelope is read as it was written. -/
structure Primitives.Lawful (P : Primitives) : Prop where
  diffieHellman_comm : ∀ a b, P.diffieHellman a (P.publicKey b) = P.diffieHellman b (P.publicKey a)
  decrypt_encrypt : ∀ {key nonce aad msg box}, P.encrypt key nonce aad msg = some box →
    P.decrypt key nonce aad box = some msg
  fromSlice_toVec : ∀ envelope, P.fromSlice (P.toVec envelope) = some envelope

section Core

variable (P : Primitives)

/-! ### Texts of bytes -/

def encodeBytes (b : Binary) : String := String.ofList (encodeUrl64 b)

def decodeBytes (value : String) : Except MessengerError Binary :=
  match (decodeUrl64 (bytes value)).filter fun b => encodeBytes b = value with
  | some b => .ok b
  | none => .error .base64DecodeFailed

/-- `decode_secret`, `decode_public` -/
def decodeKey (value : String) : Except MessengerError Key := do
  let b ← decodeBytes value
  if h : b.length = 32 then return ⟨b, h⟩ else throw .keyLengthInvalid

/-- `decode_fixed::<24>` -/
def decodeNonce (value : String) : Except MessengerError Binary := do
  let b ← decodeBytes value
  if b.length = 24 then return b else throw .keyLengthInvalid

/-! ### Devices -/

def signedPreKeySignature (identityPublic signedPreKeyPublic : Key) (signedPreKeyId : ℕ) : String :=
  let id := [24, 16, 8, 0].map fun k => UInt8.ofNat (signedPreKeyId >>> k)
  encodeBytes (P.sha256 (bytes protocolVersion ++ identityPublic ++ signedPreKeyPublic ++ id))

/-- What is drawn for a device. -/
structure DeviceDraw where
  identitySecret : Key
  signedPreKeySecret : Key
  signedPreKeyId : ℕ
  deviceId : Binary

/-- The device of what is drawn. -/
def newDevice (draw : DeviceDraw) (subjectDid : String) : MessengerDevice :=
  let identityPublic := P.publicKey draw.identitySecret
  let signedPreKeyPublic := P.publicKey draw.signedPreKeySecret
  -- `random_u32_nonzero`
  let signedPreKeyId := if draw.signedPreKeyId = 0 then 1 else draw.signedPreKeyId
  { subjectDid
    deviceId := "msgdev_" ++ encodeBytes draw.deviceId
    identityKeyPublic := encodeBytes identityPublic
    identityKeyPrivate := encodeBytes draw.identitySecret
    signedPreKeyId
    signedPreKeyPublic := encodeBytes signedPreKeyPublic
    signedPreKeyPrivate := encodeBytes draw.signedPreKeySecret
    signedPreKeySignature :=
      signedPreKeySignature P identityPublic signedPreKeyPublic signedPreKeyId
    sessionState := none
    oneTimePreKeys := []
    nextPreKeyId := 1 }

def createMessengerDevice (draw : DeviceDraw) (subjectDid : String) :
    Except MessengerError MessengerDevice :=
  if isBlank subjectDid then .error .subjectDidRequired else .ok (newDevice P draw subjectDid)

/-- One one-time pre-key for each secret that is drawn; an identifier is 32 bits wide. -/
def generateOneTimePreKeys : List Key → MessengerDevice →
    Except MessengerError (List MessengerPreKey) × MessengerDevice
  | [], device => (.ok [], device)
  | secret :: secrets, device =>
    let preKey : MessengerPreKey := {
      preKeyId := device.nextPreKeyId
      publicKey := encodeBytes (P.publicKey secret)
      privateKey := encodeBytes secret }
    if device.nextPreKeyId + 1 < 4294967296 then
      let (made, device) := generateOneTimePreKeys secrets { device with
        nextPreKeyId := device.nextPreKeyId + 1
        oneTimePreKeys := device.oneTimePreKeys ++ [preKey] }
      (made.map (preKey :: ·), device)
    else (.error .preKeyIdExhausted, device)

def MessengerDevice.publicBundle (device : MessengerDevice) (preKey : MessengerPreKey) :
    MessengerPreKeyBundle where
  subjectDid := device.subjectDid
  deviceId := device.deviceId
  identityKey := device.identityKeyPublic
  signedPreKeyId := device.signedPreKeyId
  signedPreKey := device.signedPreKeyPublic
  signedPreKeySignature := device.signedPreKeySignature
  oneTimePreKeyId := preKey.preKeyId
  oneTimePreKey := preKey.publicKey

/-! ### Keys of a session -/

/-- The four agreements of a session, in the order in which they are joined. -/
structure Agreements where
  identitySigned : Key
  ephemeralIdentity : Key
  ephemeralSigned : Key
  ephemeralOneTime : Key
  deriving DecidableEq

def deriveKey (material info : Binary) : Binary := P.hkdf (bytes protocolVersion) material info

def deriveInitialRootKey (parts : Agreements) : Binary :=
  deriveKey P (parts.identitySigned ++ parts.ephemeralIdentity ++ parts.ephemeralSigned ++
    parts.ephemeralOneTime) rootKeyInfo

def aeadKey (parts : Agreements) : Binary := deriveKey P (deriveInitialRootKey P parts) aeadKeyInfo

def sessionKey (parts : Agreements) : Binary :=
  deriveKey P (deriveInitialRootKey P parts) sessionStateInfo

/-- The serialized `SessionState` of one side. -/
def sessionState (role localDid localDeviceId remoteDid remoteDeviceId : String)
    (parts : Agreements) : String :=
  P.sessionText {
    protocolVersion, role, localDid, localDeviceId, remoteDid, remoteDeviceId
    rootKey := encodeBytes (sessionKey P parts) }

def initialAad (senderDid senderDeviceId recipientDid recipientDeviceId : String)
    (signedPreKeyId oneTimePreKeyId : ℕ) : Text :=
  List.intercalate ['|'] [chars protocolVersion, chars ciphertextType, chars senderDid,
    chars senderDeviceId, chars recipientDid, chars recipientDeviceId,
    Nat.toDigits 10 signedPreKeyId, Nat.toDigits 10 oneTimePreKeyId]

/-! ### Sending -/

/-- What is drawn for a message. -/
structure MessageDraw where
  ephemeralSecret : Key
  nonce : {nonce : Binary // nonce.length = 24}

/-- The agreements of the sender. -/
def senderAgreements (identitySecret ephemeralSecret remoteIdentity remoteSigned
    remoteOneTime : Key) : Agreements where
  identitySigned := P.diffieHellman identitySecret remoteSigned
  ephemeralIdentity := P.diffieHellman ephemeralSecret remoteIdentity
  ephemeralSigned := P.diffieHellman ephemeralSecret remoteSigned
  ephemeralOneTime := P.diffieHellman ephemeralSecret remoteOneTime

/-- The envelope of an encrypted body. -/
def initialEnvelope (draw : MessageDraw) (localDevice : MessengerDevice)
    (remoteBundle : MessengerPreKeyBundle) (encryptedBody : Binary) : InitialMessageEnvelope where
  protocolVersion := protocolVersion
  ciphertextType := ciphertextType
  senderDid := localDevice.subjectDid
  senderDeviceId := localDevice.deviceId
  senderIdentityKey := localDevice.identityKeyPublic
  recipientDid := remoteBundle.subjectDid
  recipientDeviceId := remoteBundle.deviceId
  signedPreKeyId := remoteBundle.signedPreKeyId
  oneTimePreKeyId := remoteBundle.oneTimePreKeyId
  ephemeralKey := encodeBytes (P.publicKey draw.ephemeralSecret)
  nonce := encodeBytes draw.nonce
  body := encodeBytes encryptedBody

def encryptInitialMessage (draw : MessageDraw) (localDevice : MessengerDevice)
    (remoteBundle : MessengerPreKeyBundle) (plaintext : Binary) :
    Except MessengerError MessengerCiphertext := do
  if plaintext = [] then throw .plaintextRequired
  let localIdentitySecret ← decodeKey localDevice.identityKeyPrivate
  let remoteIdentityPublic ← decodeKey remoteBundle.identityKey
  let remoteSignedPreKey ← decodeKey remoteBundle.signedPreKey
  let remoteOneTimePreKey ← decodeKey remoteBundle.oneTimePreKey
  let parts := senderAgreements P localIdentitySecret draw.ephemeralSecret remoteIdentityPublic
    remoteSignedPreKey remoteOneTimePreKey
  let aad := initialAad localDevice.subjectDid localDevice.deviceId remoteBundle.subjectDid
    remoteBundle.deviceId remoteBundle.signedPreKeyId remoteBundle.oneTimePreKeyId
  match P.encrypt (aeadKey P parts) draw.nonce aad.utf8 plaintext with
  | none => throw .encryptFailed
  | some encryptedBody =>
    return {
      protocolVersion
      ciphertextType
      ciphertext := P.toVec (initialEnvelope P draw localDevice remoteBundle encryptedBody)
      updatedSessionState := sessionState P "sender" localDevice.subjectDid localDevice.deviceId
        remoteBundle.subjectDid remoteBundle.deviceId parts }

/-! ### Receiving -/

/-- The agreements of the recipient. -/
def recipientAgreements (identitySecret signedSecret oneTimeSecret senderIdentity
    ephemeral : Key) : Agreements where
  identitySigned := P.diffieHellman signedSecret senderIdentity
  ephemeralIdentity := P.diffieHellman identitySecret ephemeral
  ephemeralSigned := P.diffieHellman signedSecret ephemeral
  ephemeralOneTime := P.diffieHellman oneTimeSecret ephemeral

/-- What a message says once its headers have been checked. -/
def readEnvelope (device : MessengerDevice) (ciphertext : MessengerCiphertext) :
    Except MessengerError InitialMessageEnvelope :=
  if ciphertext.protocolVersion ≠ protocolVersion then .error .protocolVersionUnsupported
  else if ciphertext.ciphertextType ≠ ciphertextType then .error .ciphertextTypeUnsupported
  else match P.fromSlice ciphertext.ciphertext with
    | none => .error .ciphertextDecodeFailed
    | some envelope =>
      if envelope.protocolVersion ≠ protocolVersion ∨ envelope.ciphertextType ≠ ciphertextType then
        .error .ciphertextHeaderInvalid
      else if envelope.recipientDid ≠ device.subjectDid ∨
          envelope.recipientDeviceId ≠ device.deviceId ∨
          envelope.signedPreKeyId ≠ device.signedPreKeyId then
        .error .ciphertextRecipientMismatch
      else .ok envelope

/-- The one-time pre-key that an envelope names. -/
def findPreKey (device : MessengerDevice) (preKeyId : ℕ) : Except MessengerError MessengerPreKey :=
  match device.oneTimePreKeys.find? (·.preKeyId == preKeyId) with
  | none => .error .oneTimePreKeyMissing
  | some preKey => .ok preKey

/-- The agreements and the clear text of an envelope. -/
def openEnvelope (device : MessengerDevice) (envelope : InitialMessageEnvelope) :
    Except MessengerError (Agreements × Binary) := do
  let localIdentitySecret ← decodeKey device.identityKeyPrivate
  let localSignedPreKeySecret ← decodeKey device.signedPreKeyPrivate
  let localOneTimePreKey ← findPreKey device envelope.oneTimePreKeyId
  let localOneTimePreKeySecret ← decodeKey localOneTimePreKey.privateKey
  let senderIdentityPublic ← decodeKey envelope.senderIdentityKey
  let ephemeralPublic ← decodeKey envelope.ephemeralKey
  let parts := recipientAgreements P localIdentitySecret localSignedPreKeySecret
    localOneTimePreKeySecret senderIdentityPublic ephemeralPublic
  let nonce ← decodeNonce envelope.nonce
  let body ← decodeBytes envelope.body
  let aad := initialAad envelope.senderDid envelope.senderDeviceId envelope.recipientDid
    envelope.recipientDeviceId envelope.signedPreKeyId envelope.oneTimePreKeyId
  match P.decrypt (aeadKey P parts) nonce aad.utf8 body with
  | none => throw .decryptFailed
  | some plaintext => return (parts, plaintext)

/-- `decrypt_inbound_message`, with the device that it leaves. -/
def decryptInboundMessage (device : MessengerDevice) (ciphertext : MessengerCiphertext) :
    Except MessengerError MessengerPlaintext × MessengerDevice :=
  match readEnvelope P device ciphertext with
  | .error e => (.error e, device)
  | .ok envelope =>
    match openEnvelope P device envelope with
    | .error e => (.error e, device)
    | .ok (parts, plaintext) =>
      let state := sessionState P "recipient" envelope.recipientDid envelope.recipientDeviceId
        envelope.senderDid envelope.senderDeviceId parts
      (.ok { body := plaintext, updatedSessionState := state },
        { device with
          oneTimePreKeys := device.oneTimePreKeys.filter (·.preKeyId != envelope.oneTimePreKeyId)
          sessionState := some state })

/-! ### Keys and their texts -/

theorem decodeBytes_encodeBytes (b : Binary) : decodeBytes (encodeBytes b) = .ok b := by
  have hread : decodeUrl64 (bytes (encodeBytes b)) = some b := by
    rw [encodeBytes, bytes_ofList]
    exact decodeUrl64_encodeUrl64 b
  rw [decodeBytes, hread, Option.filter_some, if_pos (decide_eq_true rfl)]

theorem decodeKey_encodeBytes (k : Key) : decodeKey (encodeBytes k) = .ok k := by
  rw [decodeKey, decodeBytes_encodeBytes]
  exact dif_pos k.2

theorem decodeNonce_encodeBytes {nonce : Binary} (h : nonce.length = 24) :
    decodeNonce (encodeBytes nonce) = .ok nonce := by
  rw [decodeNonce, decodeBytes_encodeBytes]
  exact if_pos h

/-! ### What a decryption does -/

variable {P} {device : MessengerDevice} {ciphertext : MessengerCiphertext}

variable {envelope : InitialMessageEnvelope} {preKey : MessengerPreKey} {plaintext : Binary}

theorem readEnvelope_eq_ok (h : readEnvelope P device ciphertext = .ok envelope) :
    P.fromSlice ciphertext.ciphertext = some envelope ∧
    envelope.recipientDid = device.subjectDid ∧ envelope.recipientDeviceId = device.deviceId ∧
    envelope.signedPreKeyId = device.signedPreKeyId := by
  unfold readEnvelope at h
  split at h
  · cases h
  split at h
  · cases h
  split at h
  · cases h
  next found hfound =>
  split at h
  · cases h
  split at h
  · cases h
  next hnames =>
  cases h
  simpa only [not_or, not_not, hfound, true_and] using hnames

/-- An envelope that is opened. -/
structure Opened (P : Primitives) (device : MessengerDevice) (envelope : InitialMessageEnvelope)
    (identitySecret signedSecret oneTimeSecret senderIdentity ephemeral : Key)
    (preKey : MessengerPreKey) (nonce body plaintext : Binary) : Prop where
  identityKey : decodeKey device.identityKeyPrivate = .ok identitySecret
  signedPreKey : decodeKey device.signedPreKeyPrivate = .ok signedSecret
  found : device.oneTimePreKeys.find? (·.preKeyId == envelope.oneTimePreKeyId) = some preKey
  oneTimePreKey : decodeKey preKey.privateKey = .ok oneTimeSecret
  senderKey : decodeKey envelope.senderIdentityKey = .ok senderIdentity
  ephemeralKey : decodeKey envelope.ephemeralKey = .ok ephemeral
  nonceText : decodeNonce envelope.nonce = .ok nonce
  bodyText : decodeBytes envelope.body = .ok body
  decrypted : P.decrypt (aeadKey P (recipientAgreements P identitySecret signedSecret oneTimeSecret
    senderIdentity ephemeral)) nonce (initialAad envelope.senderDid envelope.senderDeviceId
    envelope.recipientDid envelope.recipientDeviceId envelope.signedPreKeyId
    envelope.oneTimePreKeyId).utf8 body = some plaintext

theorem findPreKey_eq_ok {preKeyId : ℕ} :
    findPreKey device preKeyId = .ok preKey ↔
      device.oneTimePreKeys.find? (·.preKeyId == preKeyId) = some preKey := by
  unfold findPreKey
  split
  · next h => simp [h]
  · next h => simp [h]

theorem openEnvelope_eq_ok {parts : Agreements}
    (h : openEnvelope P device envelope = .ok (parts, plaintext)) :
    ∃ identitySecret signedSecret oneTimeSecret senderIdentity ephemeral preKey nonce body,
      parts = recipientAgreements P identitySecret signedSecret oneTimeSecret senderIdentity
        ephemeral ∧
      Opened P device envelope identitySecret signedSecret oneTimeSecret senderIdentity ephemeral
        preKey nonce body plaintext := by
  unfold openEnvelope at h
  obtain ⟨identitySecret, h1, h⟩ := bind_eq_ok.1 h
  obtain ⟨signedSecret, h2, h⟩ := bind_eq_ok.1 h
  obtain ⟨preKey, h3, h⟩ := bind_eq_ok.1 h
  obtain ⟨oneTimeSecret, h4, h⟩ := bind_eq_ok.1 h
  obtain ⟨senderIdentity, h5, h⟩ := bind_eq_ok.1 h
  obtain ⟨ephemeral, h6, h⟩ := bind_eq_ok.1 h
  obtain ⟨nonce, h7, h⟩ := bind_eq_ok.1 h
  obtain ⟨body, h8, h⟩ := bind_eq_ok.1 h
  dsimp only at h
  split at h
  · cases h
  next hdec =>
  cases h
  exact ⟨_, _, _, _, _, _, _, _, rfl, h1, h2, findPreKey_eq_ok.1 h3, h4, h5, h6, h7, h8, hdec⟩

theorem Opened.openEnvelope_eq
    {identitySecret signedSecret oneTimeSecret senderIdentity ephemeral : Key} {nonce body : Binary}
    (h : Opened P device envelope identitySecret signedSecret oneTimeSecret senderIdentity ephemeral
      preKey nonce body plaintext) :
    openEnvelope P device envelope = .ok (recipientAgreements P identitySecret signedSecret
      oneTimeSecret senderIdentity ephemeral, plaintext) := by
  unfold openEnvelope
  rw [h.identityKey, h.signedPreKey, findPreKey_eq_ok.2 h.found]
  simp only [bind, Except.bind, h.oneTimePreKey, h.senderKey, h.ephemeralKey, h.nonceText,
    h.bodyText, h.decrypted]
  rfl

/-- The session that a recipient records. -/
def recipientState (P : Primitives) (envelope : InitialMessageEnvelope) (parts : Agreements) :
    String :=
  sessionState P "recipient" envelope.recipientDid envelope.recipientDeviceId envelope.senderDid
    envelope.senderDeviceId parts

/-- **What a decryption does to a device**: nothing when it fails, and when it succeeds it takes the
pre-keys with the identifier of the envelope and records the session. -/
theorem decryptInboundMessage_cases (P : Primitives) (device : MessengerDevice)
    (ciphertext : MessengerCiphertext) :
    (∃ e, decryptInboundMessage P device ciphertext = (.error e, device)) ∨
    ∃ envelope parts plaintext, readEnvelope P device ciphertext = .ok envelope ∧
      openEnvelope P device envelope = .ok (parts, plaintext) ∧
      decryptInboundMessage P device ciphertext =
        (.ok { body := plaintext, updatedSessionState := recipientState P envelope parts },
          { device with
            oneTimePreKeys := device.oneTimePreKeys.filter (·.preKeyId != envelope.oneTimePreKeyId)
            sessionState := some (recipientState P envelope parts) }) := by
  unfold decryptInboundMessage
  cases hread : readEnvelope P device ciphertext with
  | error e => exact .inl ⟨e, rfl⟩
  | ok envelope =>
    cases hopen : openEnvelope P device envelope with
    | error e =>
      refine .inl ⟨e, ?_⟩
      dsimp only
      rw [hopen]
    | ok opened =>
      refine .inr ⟨envelope, opened.1, opened.2, rfl, hopen, ?_⟩
      dsimp only
      rw [hopen]
      rfl

/-! ### The devices of the core -/

/-- A device that the core can have made. -/
structure MessengerDevice.Sound (P : Primitives) (device : MessengerDevice) : Prop where
  identity : ∃ k : Key, device.identityKeyPrivate = encodeBytes k ∧
    device.identityKeyPublic = encodeBytes (P.publicKey k)
  signedPreKey : ∃ k : Key, device.signedPreKeyPrivate = encodeBytes k ∧
    device.signedPreKeyPublic = encodeBytes (P.publicKey k)
  oneTimePreKeys : ∀ p ∈ device.oneTimePreKeys, ∃ k : Key, p.privateKey = encodeBytes k ∧
    p.publicKey = encodeBytes (P.publicKey k)
  nodup : (device.oneTimePreKeys.map (·.preKeyId)).Nodup
  lt_next : ∀ p ∈ device.oneTimePreKeys, p.preKeyId < device.nextPreKeyId

/-- What happens to a device. -/
inductive DeviceStep
  | generate (secrets : List Key)
  | receive (ciphertext : MessengerCiphertext)

def deviceStep (P : Primitives) (device : MessengerDevice) : DeviceStep → MessengerDevice
  | .generate secrets => (generateOneTimePreKeys P secrets device).2
  | .receive ciphertext => (decryptInboundMessage P device ciphertext).2

/-- A device after any number of steps from its creation. -/
def Reachable (P : Primitives) (device : MessengerDevice) : Prop :=
  ∃ draw subjectDid made steps, createMessengerDevice P draw subjectDid = .ok made ∧
    exec (deviceStep P) made steps = device

theorem sound_createMessengerDevice {draw : DeviceDraw} {subjectDid : String}
    (h : createMessengerDevice P draw subjectDid = .ok device) : device.Sound P := by
  unfold createMessengerDevice at h
  split at h
  · cases h
  cases h
  exact ⟨⟨_, rfl, rfl⟩, ⟨_, rfl, rfl⟩, fun _ hp => absurd hp List.not_mem_nil, List.nodup_nil,
    fun _ hp => absurd hp List.not_mem_nil⟩

theorem MessengerDevice.Sound.generateOneTimePreKeys {secrets : List Key}
    (h : device.Sound P) : (generateOneTimePreKeys P secrets device).2.Sound P := by
  induction secrets generalizing device with
  | nil => exact h
  | cons secret secrets ih =>
    rw [Messenger.generateOneTimePreKeys]
    dsimp only
    split
    · refine ih ⟨h.identity, h.signedPreKey, ?_, ?_, ?_⟩
      · intro p hp
        rcases List.mem_append.1 hp with hp | hp
        · exact h.oneTimePreKeys p hp
        · obtain rfl := List.mem_singleton.1 hp
          exact ⟨secret, rfl, rfl⟩
      · -- the new identifier is above all others
        simp only [List.map_append, List.map_cons, List.map_nil]
        rw [List.nodup_append]
        refine ⟨h.nodup, List.nodup_singleton _, ?_⟩
        intro a ha b hb
        obtain ⟨p, hp, rfl⟩ := List.mem_map.1 ha
        obtain rfl := List.mem_singleton.1 hb
        exact Nat.ne_of_lt (h.lt_next p hp)
      · intro p hp
        rcases List.mem_append.1 hp with hp | hp
        · exact Nat.lt_succ_of_lt (h.lt_next p hp)
        · obtain rfl := List.mem_singleton.1 hp
          exact Nat.lt_succ_self _
    · exact h

theorem MessengerDevice.Sound.decryptInboundMessage (h : device.Sound P) :
    (decryptInboundMessage P device ciphertext).2.Sound P := by
  rcases decryptInboundMessage_cases P device ciphertext with ⟨e, he⟩ | ⟨_, _, _, -, -, hok⟩
  · rw [he]
    exact h
  · rw [hok]
    exact ⟨h.identity, h.signedPreKey, fun p hp => h.oneTimePreKeys p (List.mem_of_mem_filter hp),
      h.nodup.sublist (List.filter_sublist.map _),
      fun p hp => h.lt_next p (List.mem_of_mem_filter hp)⟩

/-- **Every device that the core makes is sound.** -/
theorem Reachable.sound (h : Reachable P device) : device.Sound P := by
  obtain ⟨draw, subjectDid, made, steps, hmade, rfl⟩ := h
  refine exec_invariant (fun device step hdevice => ?_) (sound_createMessengerDevice hmade) steps
  cases step with
  | generate secrets => exact hdevice.generateOneTimePreKeys
  | receive ciphertext => exact hdevice.decryptInboundMessage

theorem MessengerDevice.Sound.find?_eq (h : device.Sound P)
    (hmem : preKey ∈ device.oneTimePreKeys) :
    device.oneTimePreKeys.find? (·.preKeyId == preKey.preKeyId) = some preKey := by
  cases hfind : device.oneTimePreKeys.find? (·.preKeyId == preKey.preKeyId) with
  | none => exact absurd (List.find?_eq_none.1 hfind preKey hmem) (by simp)
  | some found =>
    have hid := List.find?_some hfind
    rw [beq_iff_eq] at hid
    rw [List.inj_on_of_nodup_map h.nodup (List.mem_of_find?_eq_some hfind) hmem hid]

/-- The pre-key that a decryption takes is the only one. -/
theorem MessengerDevice.Sound.filter_eq {preKeyId : ℕ} (h : device.Sound P)
    (hfind : device.oneTimePreKeys.find? (·.preKeyId == preKeyId) = some preKey) :
    preKey.preKeyId = preKeyId ∧ ∃ l l', device.oneTimePreKeys = l ++ preKey :: l' ∧
      device.oneTimePreKeys.filter (·.preKeyId != preKeyId) = l ++ l' := by
  obtain ⟨hid, l, l', hsplit, hl⟩ := List.find?_eq_some_iff_append.1 hfind
  rw [beq_iff_eq] at hid
  refine ⟨hid, l, l', hsplit, ?_⟩
  have hnodup := h.nodup
  rw [hsplit, List.map_append, List.map_cons, List.nodup_middle, List.nodup_cons] at hnodup
  have hne : ∀ p ∈ l ++ l', (p.preKeyId != preKeyId) = true := by
    intro p hp
    rw [bne_iff_ne]
    intro hp'
    refine hnodup.1 ?_
    rw [← List.map_append, hid, ← hp']
    exact List.mem_map_of_mem hp
  rw [hsplit, List.filter_append, List.filter_cons_of_neg (by simp [hid]), ← List.filter_append,
    List.filter_eq_self.2 hne]

/-! ### Round trip -/

/-- An encryption that succeeds. -/
theorem encryptInitialMessage_eq_ok {draw : MessageDraw} {localDevice : MessengerDevice}
    {remoteBundle : MessengerPreKeyBundle}
    (h : encryptInitialMessage P draw localDevice remoteBundle plaintext = .ok ciphertext) :
    ∃ identitySecret remoteIdentity remoteSigned remoteOneTime parts encryptedBody,
      decodeKey localDevice.identityKeyPrivate = .ok identitySecret ∧
      decodeKey remoteBundle.identityKey = .ok remoteIdentity ∧
      decodeKey remoteBundle.signedPreKey = .ok remoteSigned ∧
      decodeKey remoteBundle.oneTimePreKey = .ok remoteOneTime ∧
      parts = senderAgreements P identitySecret draw.ephemeralSecret remoteIdentity remoteSigned
        remoteOneTime ∧
      P.encrypt (aeadKey P parts) draw.nonce (initialAad localDevice.subjectDid
        localDevice.deviceId remoteBundle.subjectDid remoteBundle.deviceId
        remoteBundle.signedPreKeyId remoteBundle.oneTimePreKeyId).utf8 plaintext
          = some encryptedBody ∧
      ciphertext = {
        protocolVersion, ciphertextType
        ciphertext := P.toVec (initialEnvelope P draw localDevice remoteBundle encryptedBody)
        updatedSessionState := sessionState P "sender" localDevice.subjectDid
          localDevice.deviceId remoteBundle.subjectDid remoteBundle.deviceId parts } := by
  unfold encryptInitialMessage at h
  split at h
  · cases h
  obtain ⟨identitySecret, h1, h⟩ := bind_eq_ok.1 h
  obtain ⟨remoteIdentity, h2, h⟩ := bind_eq_ok.1 h
  obtain ⟨remoteSigned, h3, h⟩ := bind_eq_ok.1 h
  obtain ⟨remoteOneTime, h4, h⟩ := bind_eq_ok.1 h
  dsimp only at h
  split at h
  · cases h
  next henc =>
  cases h
  exact ⟨_, _, _, _, _, _, h1, h2, h3, h4, rfl, henc, rfl⟩

/-- The two sides agree. -/
theorem senderAgreements_eq (hP : P.Lawful) (identity ephemeral remoteIdentity remoteSigned
    remoteOneTime : Key) :
    senderAgreements P identity ephemeral (P.publicKey remoteIdentity) (P.publicKey remoteSigned)
        (P.publicKey remoteOneTime)
      = recipientAgreements P remoteIdentity remoteSigned remoteOneTime (P.publicKey identity)
        (P.publicKey ephemeral) := by
  rw [senderAgreements, recipientAgreements, hP.diffieHellman_comm identity,
    hP.diffieHellman_comm ephemeral remoteIdentity, hP.diffieHellman_comm ephemeral remoteSigned,
    hP.diffieHellman_comm ephemeral remoteOneTime]

theorem readEnvelope_of (hversion : ciphertext.protocolVersion = protocolVersion)
    (htype : ciphertext.ciphertextType = ciphertextType)
    (hslice : P.fromSlice ciphertext.ciphertext = some envelope)
    (hversion' : envelope.protocolVersion = protocolVersion)
    (htype' : envelope.ciphertextType = ciphertextType)
    (hdid : envelope.recipientDid = device.subjectDid)
    (hdevice : envelope.recipientDeviceId = device.deviceId)
    (hsigned : envelope.signedPreKeyId = device.signedPreKeyId) :
    readEnvelope P device ciphertext = .ok envelope := by
  rw [readEnvelope, if_neg (not_not.2 hversion), if_neg (not_not.2 htype), hslice]
  dsimp only
  rw [if_neg (by simp [hversion', htype']), if_neg (by simp [hdid, hdevice, hsigned])]

/-- **A message is decrypted by the device it was made for**, and both sides record the key of one
session. -/
theorem decryptInboundMessage_encrypt (hP : P.Lawful) {draw : MessageDraw}
    {sender recipient : MessengerDevice} (hs : sender.Sound P) (hr : recipient.Sound P)
    (hk : preKey ∈ recipient.oneTimePreKeys)
    (h : encryptInitialMessage P draw sender (recipient.publicBundle preKey) plaintext
      = .ok ciphertext) :
    ∃ parts envelope,
      P.fromSlice ciphertext.ciphertext = some envelope ∧
      envelope.senderDid = sender.subjectDid ∧ envelope.senderDeviceId = sender.deviceId ∧
      envelope.senderIdentityKey = sender.identityKeyPublic ∧
      ciphertext.updatedSessionState = sessionState P "sender" sender.subjectDid sender.deviceId
        recipient.subjectDid recipient.deviceId parts ∧
      (decryptInboundMessage P recipient ciphertext).1 = .ok {
        body := plaintext
        updatedSessionState := sessionState P "recipient" recipient.subjectDid recipient.deviceId
          sender.subjectDid sender.deviceId parts } := by
  obtain ⟨_, _, _, _, parts, box, h1, h2, h3, h4, hparts, henc, rfl⟩ :=
    encryptInitialMessage_eq_ok h
  obtain ⟨identity, hidentity, hidentity'⟩ := hs.identity
  obtain ⟨remoteIdentity, hri, hri'⟩ := hr.identity
  obtain ⟨remoteSigned, hrs, hrs'⟩ := hr.signedPreKey
  obtain ⟨remoteOneTime, hro, hro'⟩ := hr.oneTimePreKeys preKey hk
  rw [hidentity, decodeKey_encodeBytes] at h1
  rw [MessengerDevice.publicBundle, hri', decodeKey_encodeBytes] at h2
  rw [MessengerDevice.publicBundle, hrs', decodeKey_encodeBytes] at h3
  rw [MessengerDevice.publicBundle, hro', decodeKey_encodeBytes] at h4
  rw [← Except.ok.inj h1, ← Except.ok.inj h2, ← Except.ok.inj h3, ← Except.ok.inj h4,
    senderAgreements_eq hP] at hparts
  have hsender : decodeKey sender.identityKeyPublic = .ok (P.publicKey identity) :=
    hidentity' ▸ decodeKey_encodeBytes (P.publicKey identity)
  -- both sides agree on the same keys, so the box opens
  have hopened : Opened P recipient
      (initialEnvelope P draw sender (recipient.publicBundle preKey) box) remoteIdentity
      remoteSigned remoteOneTime (P.publicKey identity) (P.publicKey draw.ephemeralSecret) preKey
      draw.nonce box plaintext :=
    ⟨hri ▸ decodeKey_encodeBytes _, hrs ▸ decodeKey_encodeBytes _, hr.find?_eq hk,
      hro ▸ decodeKey_encodeBytes _, hsender, decodeKey_encodeBytes _,
      decodeNonce_encodeBytes draw.nonce.2, decodeBytes_encodeBytes box,
      hparts ▸ hP.decrypt_encrypt henc⟩
  have hslice := hP.fromSlice_toVec
    (initialEnvelope P draw sender (recipient.publicBundle preKey) box)
  refine ⟨parts, _, hslice, rfl, rfl, rfl, rfl, ?_⟩
  rw [decryptInboundMessage, readEnvelope_of rfl rfl hslice rfl rfl rfl rfl rfl]
  dsimp only
  rw [hopened.openEnvelope_eq, ← hparts]
  rfl

/-- An encryption for a bundle of a device of the core fails for an empty text, or where the cipher
does. -/
theorem encryptInitialMessage_cases (draw : MessageDraw) {sender recipient : MessengerDevice}
    (hs : sender.Sound P) (hr : recipient.Sound P) (hk : preKey ∈ recipient.oneTimePreKeys)
    (hne : plaintext ≠ []) :
    (∃ ciphertext, encryptInitialMessage P draw sender (recipient.publicBundle preKey) plaintext
      = .ok ciphertext) ∨
    encryptInitialMessage P draw sender (recipient.publicBundle preKey) plaintext
      = .error .encryptFailed ∧ ∃ key nonce aad, P.encrypt key nonce aad plaintext = none := by
  obtain ⟨identity, hidentity, -⟩ := hs.identity
  obtain ⟨remoteIdentity, -, hri⟩ := hr.identity
  obtain ⟨remoteSigned, -, hrs⟩ := hr.signedPreKey
  obtain ⟨remoteOneTime, -, hro⟩ := hr.oneTimePreKeys preKey hk
  rw [encryptInitialMessage, if_neg hne, hidentity, decodeKey_encodeBytes]
  simp only [MessengerDevice.publicBundle, hri, hrs, hro, decodeKey_encodeBytes, bind, Except.bind,
    pure, Except.pure]
  split
  · next henc => exact .inr ⟨rfl, _, _, _, henc⟩
  · exact .inl ⟨_, rfl⟩

end Core

end Messenger

end Ansible
