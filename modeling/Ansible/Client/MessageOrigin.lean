import Ansible.Client.InitialMessage
import Ansible.Lib.JsonParse

/-!
# The origin of initial messages

Who can have made a message that a device accepts.  The secrets of honest devices are known to them
alone; two of them agree with each other only, and the keys that are derived tell the agreements
they come from.  Everything that is sealed is in a log: what honest devices sent, and what others
sealed under keys that they can derive, none of which comes from an agreement of two honest
secrets.  A body opens only as it was sealed.

An envelope tells the identity key of its sender, and the recipient derives the session from that
key.  The key is not compared with the one that the named sender has published.

## Main definitions

* `Parties`, `Ideal` — the honest secrets, and the ideal curve and key derivation.
* `Sending`, `Sealing`, `OnlySealed` — what is sealed, and the ideal cipher.

## Main results

* `initial_message` — **round trip, frame and origin of initial messages.**
-/

namespace Ansible

namespace Messenger

/-! ### Names -/

theorem toDigits_injective {m n : ℕ} (h : Nat.toDigits 10 m = Nat.toDigits 10 n) : m = n := by
  have hvalue := congrArg (fun l => Nat.ofDigitChars 10 l 0) h
  simpa only [Nat.ofDigitChars_ten_toDigits] using hvalue

theorem bar_not_mem_toDigits (n : ℕ) : '|' ∉ Nat.toDigits 10 n := by
  intro h
  exact absurd (Nat.isDigit_of_mem_toDigits (by omega) (by omega) h) (by decide)

section Names

variable {senderDid senderDeviceId recipientDid recipientDeviceId senderDid' senderDeviceId'
  recipientDid' recipientDeviceId' : String} {m n m' n' : ℕ}

theorem count_initialAad : (initialAad senderDid senderDeviceId recipientDid recipientDeviceId m
    n).count '|' = 7 + ((chars senderDid).count '|' + (chars senderDeviceId).count '|' +
      (chars recipientDid).count '|' + (chars recipientDeviceId).count '|') := by
  have hm := List.count_eq_zero_of_not_mem (bar_not_mem_toDigits m)
  have hn := List.count_eq_zero_of_not_mem (bar_not_mem_toDigits n)
  have hversion : (chars protocolVersion).count '|' = 0 := by decide +kernel
  have htype : (chars ciphertextType).count '|' = 0 := by decide +kernel
  simp only [initialAad, List.intercalate, List.intersperse, List.flatten_cons, List.flatten_nil,
    List.count_append, List.count_cons_self, List.count_nil, hm, hn, hversion, htype]
  omega

/-- **Names without the delimiter are told apart.** -/
theorem initialAad_inj (h1 : '|' ∉ chars senderDid) (h2 : '|' ∉ chars senderDeviceId)
    (h3 : '|' ∉ chars recipientDid) (h4 : '|' ∉ chars recipientDeviceId)
    (h : initialAad senderDid' senderDeviceId' recipientDid' recipientDeviceId' m' n'
      = initialAad senderDid senderDeviceId recipientDid recipientDeviceId m n) :
    senderDid' = senderDid ∧ senderDeviceId' = senderDeviceId ∧ recipientDid' = recipientDid ∧
      recipientDeviceId' = recipientDeviceId ∧ m' = m ∧ n' = n := by
  have hcount := congrArg (List.count '|') h
  rw [count_initialAad, count_initialAad, List.count_eq_zero_of_not_mem h1,
    List.count_eq_zero_of_not_mem h2, List.count_eq_zero_of_not_mem h3,
    List.count_eq_zero_of_not_mem h4] at hcount
  have h1' : '|' ∉ chars senderDid' := List.count_eq_zero.1 (by omega)
  have h2' : '|' ∉ chars senderDeviceId' := List.count_eq_zero.1 (by omega)
  have h3' : '|' ∉ chars recipientDid' := List.count_eq_zero.1 (by omega)
  have h4' : '|' ∉ chars recipientDeviceId' := List.count_eq_zero.1 (by omega)
  have hversion : '|' ∉ chars protocolVersion := by decide +kernel
  have htype : '|' ∉ chars ciphertextType := by decide +kernel
  have hsplit := congrArg (List.splitOn '|') h
  rw [initialAad, initialAad, List.splitOn_intercalate, List.splitOn_intercalate] at hsplit
  · simp only [List.cons.injEq, and_true, true_and] at hsplit
    obtain ⟨e1, e2, e3, e4, e5, e6⟩ := hsplit
    have hchars : ∀ {s t : String}, chars s = chars t → s = t := by
      intro s t hst
      rw [← ofList_chars s, hst, ofList_chars]
    exact ⟨hchars e1, hchars e2, hchars e3, hchars e4, toDigits_injective e5,
      toDigits_injective e6⟩
  · simp [h1, h2, h3, h4, hversion, htype, bar_not_mem_toDigits]
  · simp
  · simp [h1', h2', h3', h4', hversion, htype, bar_not_mem_toDigits]
  · simp

/-- A delimiter within the name of the sender stands for the border of its names as well. -/
theorem initialAad_border (rest : String) :
    initialAad senderDid (rest ++ "|" ++ senderDeviceId) recipientDid recipientDeviceId m n
      = initialAad (senderDid ++ "|" ++ rest)
        senderDeviceId recipientDid recipientDeviceId m n := by
  have hchars : ∀ s t : String, chars (s ++ "|" ++ t) = chars s ++ '|' :: chars t := by
    intro s t
    simp [chars_eq_toList]
  simp only [initialAad, hchars, List.intercalate, List.intersperse, List.flatten_cons,
    List.flatten_nil, List.cons_append, List.nil_append, List.append_assoc]

/-- **A message of a sender with a delimiter in its name opens for another sender too**, to whom
the envelope moves the rest of the name. -/
theorem openEnvelope_border (P : Primitives) (device : MessengerDevice)
    {envelope : InitialMessageEnvelope} {did rest : String}
    (h : envelope.senderDid = did ++ "|" ++ rest) :
    openEnvelope P device { envelope with
        senderDid := did, senderDeviceId := rest ++ "|" ++ envelope.senderDeviceId }
      = openEnvelope P device envelope := by
  simp only [openEnvelope, initialAad_border, h]

end Names

/-! ### What is sealed -/

/-- The secrets that honest devices hold alone. -/
structure Parties where
  identities : Set Key
  preKeys : Set Key
  disjoint : ∀ k ∈ identities, k ∉ preKeys

/-- The ephemeral secrets are among those of pre-keys. -/
def Parties.secrets (H : Parties) : Set Key := {k | k ∈ H.identities ∨ k ∈ H.preKeys}

/-- Every secret agrees alike with two public keys.  A point of the curve has several encodings,
and points that differ by one of small order agree alike too. -/
def Primitives.SamePoint (P : Primitives) (key key' : Key) : Prop :=
  ∀ secret, P.diffieHellman secret key = P.diffieHellman secret key'

/-- The ideal curve and key derivation. -/
structure Ideal (P : Primitives) (H : Parties) : Prop where
  /-- What two honest secrets agree on is agreed on by no other secret and point. -/
  agreement : ∀ x ∈ H.secrets, ∀ a ∈ H.secrets, ∀ b ∈ H.secrets, ∀ key,
    P.diffieHellman x key = P.diffieHellman a (P.publicKey b) →
      x = a ∧ P.SamePoint key (P.publicKey b) ∨ x = b ∧ P.SamePoint key (P.publicKey a)
  derivation : ∀ salt info material material',
    P.hkdf salt material info = P.hkdf salt material' info → material = material'

/-- A run of `encrypt_initial_message`. -/
structure Sending where
  draw : MessageDraw
  device : MessengerDevice
  bundle : MessengerPreKeyBundle
  plaintext : Binary

inductive Sealing
  /-- By an honest device, for whatever bundle it was given. -/
  | sent (s : Sending)
  /-- By anyone else. -/
  | forged (key nonce aad plaintext : Binary)

/-- The secrets of the device are honest. -/
structure MessengerDevice.Honest (H : Parties) (device : MessengerDevice) : Prop where
  identity : ∀ k, decodeKey device.identityKeyPrivate = .ok k → k ∈ H.identities
  signedPreKey : ∀ k, decodeKey device.signedPreKeyPrivate = .ok k → k ∈ H.preKeys
  oneTimePreKeys : ∀ p ∈ device.oneTimePreKeys, ∀ k, decodeKey p.privateKey = .ok k →
    k ∈ H.preKeys

def HonestAgreement (P : Primitives) (H : Parties) (part : Key) : Prop :=
  ∃ a ∈ H.secrets, ∃ b ∈ H.secrets, part = P.diffieHellman a (P.publicKey b)

/-- Who seals what. -/
def Sealing.Legit (P : Primitives) (H : Parties) : Sealing → Prop
  | .sent s => s.device.Honest H ∧ s.draw.ephemeralSecret ∈ H.preKeys ∧
      ∃ ciphertext, encryptInitialMessage P s.draw s.device s.bundle s.plaintext = .ok ciphertext
  | .forged key _ _ _ => ∀ parts, key = aeadKey P parts →
      ¬ (HonestAgreement P H parts.identitySigned ∨ HonestAgreement P H parts.ephemeralIdentity ∨
        HonestAgreement P H parts.ephemeralSigned ∨ HonestAgreement P H parts.ephemeralOneTime)

/-- What a sealing seals. -/
def Sealing.Seals (P : Primitives) : Sealing → (key nonce aad plaintext : Binary) → Prop
  | .sent s, key, nonce, aad, plaintext =>
    ∃ identitySecret remoteIdentity remoteSigned remoteOneTime,
      decodeKey s.device.identityKeyPrivate = .ok identitySecret ∧
      decodeKey s.bundle.identityKey = .ok remoteIdentity ∧
      decodeKey s.bundle.signedPreKey = .ok remoteSigned ∧
      decodeKey s.bundle.oneTimePreKey = .ok remoteOneTime ∧
      key = aeadKey P (senderAgreements P identitySecret s.draw.ephemeralSecret remoteIdentity
        remoteSigned remoteOneTime) ∧
      nonce = s.draw.nonce ∧
      aad = (initialAad s.device.subjectDid s.device.deviceId s.bundle.subjectDid
        s.bundle.deviceId s.bundle.signedPreKeyId s.bundle.oneTimePreKeyId).utf8 ∧
      plaintext = s.plaintext
  | .forged key' nonce' aad' plaintext', key, nonce, aad, plaintext =>
    key = key' ∧ nonce = nonce' ∧ aad = aad' ∧ plaintext = plaintext'

/-- The ideal cipher: a body opens only as it was sealed. -/
def OnlySealed (P : Primitives) (log : List Sealing) (body : Binary) : Prop :=
  ∀ key nonce aad plaintext, P.decrypt key nonce aad body = some plaintext →
    ∃ e ∈ log, e.Seals P key nonce aad plaintext

/-! ### Origin -/

/-- A text encodes the public key of a secret, the other text. -/
def EncodesPublic (P : Primitives) (publicKey secret : String) : Prop :=
  ∀ k, decodeKey secret = .ok k →
    ∃ key, decodeKey publicKey = .ok key ∧ P.SamePoint key (P.publicKey k)

/-- A message for `device` comes from the sending `s`, by the device with the identity secret
`sender`. -/
structure Produced (device : MessengerDevice) (envelope : InitialMessageEnvelope)
    (plaintext : Binary) (sender : Key) (P : Primitives) (s : Sending) : Prop where
  sender : decodeKey s.device.identityKeyPrivate = .ok sender
  plaintext : s.plaintext = plaintext
  /-- The sending was for the keys of the device. -/
  identityKey : EncodesPublic P s.bundle.identityKey device.identityKeyPrivate
  signedPreKey : EncodesPublic P s.bundle.signedPreKey device.signedPreKeyPrivate
  oneTimePreKey : ∃ preKey ∈ device.oneTimePreKeys, preKey.preKeyId = envelope.oneTimePreKeyId ∧
    EncodesPublic P s.bundle.oneTimePreKey preKey.privateKey
  /-- The joined names and identifiers are those of the envelope. -/
  names : initialAad s.device.subjectDid s.device.deviceId s.bundle.subjectDid s.bundle.deviceId
      s.bundle.signedPreKeyId s.bundle.oneTimePreKeyId
    = initialAad envelope.senderDid envelope.senderDeviceId envelope.recipientDid
      envelope.recipientDeviceId envelope.signedPreKeyId envelope.oneTimePreKeyId

section Origin

variable {P : Primitives} {H : Parties}

theorem aeadKey_inj (hP : Ideal P H) {parts parts' : Agreements}
    (h : aeadKey P parts = aeadKey P parts') : parts = parts' := by
  have hmaterial := hP.derivation _ _ _ _ (hP.derivation _ _ _ _ h)
  obtain ⟨hrest, h4⟩ := List.append_inj hmaterial (by
    simp only [List.length_append, parts.1.2, parts.2.2, parts.3.2, parts'.1.2, parts'.2.2,
      parts'.3.2])
  obtain ⟨hrest, h3⟩ := List.append_inj hrest (by
    simp only [List.length_append, parts.1.2, parts.2.2, parts'.1.2, parts'.2.2])
  obtain ⟨h1, h2⟩ := List.append_inj hrest (by rw [parts.1.2, parts'.1.2])
  cases parts
  cases parts'
  simp only [Agreements.mk.injEq]
  exact ⟨Subtype.ext h1, Subtype.ext h2, Subtype.ext h3, Subtype.ext h4⟩

/-- **An accepted message was sent by the device whose identity key it tells**, for the keys of the
recipient. -/
theorem produced_of_accepted (hP : Ideal P H) {log : List Sealing}
    (hlog : ∀ e ∈ log, e.Legit P H) {device : MessengerDevice} (hdevice : device.Honest H)
    {ciphertext : MessengerCiphertext} {message : MessengerPlaintext}
    (hok : (decryptInboundMessage P device ciphertext).1 = .ok message)
    {envelope : InitialMessageEnvelope} (henv : P.fromSlice ciphertext.ciphertext = some envelope)
    (hsealed : ∀ body, decodeBytes envelope.body = .ok body → OnlySealed P log body)
    {sender senderKey : Key} (hsender : sender ∈ H.identities)
    (hkey : decodeKey envelope.senderIdentityKey = .ok senderKey)
    (hpoint : P.SamePoint senderKey (P.publicKey sender)) :
    ∃ s, Sealing.sent s ∈ log ∧ Produced device envelope message.body sender P s := by
  rcases decryptInboundMessage_cases P device ciphertext with
    ⟨e, he⟩ | ⟨envelope', parts, plaintext, hread, hopen, hdec⟩
  · rw [he] at hok
    cases hok
  rw [hdec] at hok
  cases hok
  obtain ⟨hslice, -⟩ := readEnvelope_eq_ok hread
  obtain rfl : envelope' = envelope := Option.some.inj (hslice.symm.trans henv)
  obtain ⟨identity, signed, oneTime, senderIdentity, ephemeral, preKey, nonce, body, rfl, ho⟩ :=
    openEnvelope_eq_ok hopen
  obtain rfl : senderIdentity = senderKey := Except.ok.inj (ho.senderKey.symm.trans hkey)
  have hidentity : identity ∈ H.secrets := .inl (hdevice.identity _ ho.identityKey)
  have hsigned := hdevice.signedPreKey _ ho.signedPreKey
  have hmem := List.mem_of_find?_eq_some ho.found
  have hpreKeyId := List.find?_some ho.found
  rw [beq_iff_eq] at hpreKeyId
  have honeTime : oneTime ∈ H.secrets :=
    .inr (hdevice.oneTimePreKeys preKey hmem _ ho.oneTimePreKey)
  obtain ⟨e, he, hseals⟩ := hsealed body ho.bodyText _ _ _ _ ho.decrypted
  have hlegit := hlog e he
  cases e with
  | forged key' nonce' aad' plaintext' =>
    -- the first agreement is of two honest secrets
    exact absurd (.inl ⟨signed, .inr hsigned, sender, .inl hsender, hpoint signed⟩)
      (hlegit _ hseals.1.symm)
  | sent s =>
    obtain ⟨hhonest, hephemeral, -⟩ := hlegit
    obtain ⟨identitySecret, remoteIdentity, remoteSigned, remoteOneTime, h1, h2, h3,
      h4, hk, -, haad,
      hplain⟩ := hseals
    have hparts := aeadKey_inj hP hk.symm
    simp only [senderAgreements, recipientAgreements, Agreements.mk.injEq] at hparts
    obtain ⟨p1, p2, p3, p4⟩ := hparts
    have hsecret := hhonest.identity _ h1
    -- the identity key of the sender is honest, so that the first agreement tells both of its sides
    obtain ⟨rfl, hremoteSigned⟩ :
        identitySecret = sender ∧ P.SamePoint remoteSigned (P.publicKey signed) := by
      rcases hP.agreement _ (.inl hsecret) signed (.inr hsigned) sender (.inl hsender) _
        (p1.trans (hpoint signed)) with ⟨rfl, -⟩ | h
      · exact absurd hsigned (H.disjoint _ hsecret)
      · exact h
    have heph : P.SamePoint ephemeral (P.publicKey s.draw.ephemeralSecret) := by
      rcases hP.agreement signed (.inr hsigned) _ (.inr hephemeral) signed (.inr hsigned) _
        (p3.symm.trans (hremoteSigned _)) with ⟨heq, h⟩ | ⟨-, h⟩
      · rwa [heq] at h
      · exact h
    -- the ephemeral secret is honest too, which gives the other keys
    have hremote : ∀ {k key}, k ∈ H.secrets → P.diffieHellman s.draw.ephemeralSecret key
        = P.diffieHellman k ephemeral → P.SamePoint key (P.publicKey k) := by
      intro k key hk hagree
      rcases hP.agreement _ (.inr hephemeral) k hk _ (.inr hephemeral) _
        (hagree.trans (heph k)) with ⟨heq, h⟩ | ⟨-, h⟩
      · rwa [heq] at h
      · exact h
    refine ⟨s, he, h1, hplain.symm, fun k hk => ⟨_, h2, ?_⟩, fun k hk => ⟨_, h3, ?_⟩,
      ⟨preKey, hmem, hpreKeyId, fun k hk => ⟨_, h4, ?_⟩⟩, Text.utf8_injective haad.symm⟩
    · rw [Except.ok.inj (hk.symm.trans ho.identityKey)]
      exact hremote hidentity p2
    · rw [Except.ok.inj (hk.symm.trans ho.signedPreKey)]
      exact hremoteSigned
    · rw [Except.ok.inj (hk.symm.trans ho.oneTimePreKey)]
      exact hremote honeTime p4

/-! ### Initial messages -/

/-- A message for a bundle of `recipient`, made by `sender`. -/
structure RoundTrip (P : Primitives) (draw : MessageDraw) (sender recipient : MessengerDevice)
    (preKey : MessengerPreKey) (plaintext : Binary) : Prop where
  /-- What is encrypted is decrypted, and both sides record one session key. -/
  decrypts : ∀ ciphertext, encryptInitialMessage P draw sender (recipient.publicBundle preKey)
    plaintext = .ok ciphertext → ∃ parts,
      ciphertext.updatedSessionState = sessionState P "sender" sender.subjectDid sender.deviceId
        recipient.subjectDid recipient.deviceId parts ∧
      (decryptInboundMessage P recipient ciphertext).1 = .ok {
        body := plaintext
        updatedSessionState := sessionState P "recipient" recipient.subjectDid recipient.deviceId
          sender.subjectDid sender.deviceId parts }
  /-- An encryption fails where the cipher does, and for an empty text. -/
  encrypts : plaintext ≠ [] → (∃ ciphertext, encryptInitialMessage P draw sender
      (recipient.publicBundle preKey) plaintext = .ok ciphertext) ∨
    encryptInitialMessage P draw sender (recipient.publicBundle preKey) plaintext
      = .error .encryptFailed ∧ ∃ key nonce aad, P.encrypt key nonce aad plaintext = none

/-- What a decryption leaves of a device. -/
structure Frame (P : Primitives) (device : MessengerDevice) (ciphertext : MessengerCiphertext) :
    Prop where
  failed : ∀ e, (decryptInboundMessage P device ciphertext).1 = .error e →
    (decryptInboundMessage P device ciphertext).2 = device
  /-- The one-time pre-key that the envelope names is gone, and the session is recorded. -/
  succeeded : ∀ message, (decryptInboundMessage P device ciphertext).1 = .ok message →
    ∃ envelope preKey l l', P.fromSlice ciphertext.ciphertext = some envelope ∧
      preKey.preKeyId = envelope.oneTimePreKeyId ∧ device.oneTimePreKeys = l ++ preKey :: l' ∧
      (decryptInboundMessage P device ciphertext).2 = { device with
        oneTimePreKeys := l ++ l'
        sessionState := some message.updatedSessionState }

/-- Where an accepted message comes from: the device whose identity key its envelope tells, which
sent it for the keys of the recipient; and if its names are without the delimiter, they are those
of the sending. -/
def Origin (P : Primitives) (H : Parties) (log : List Sealing) (device : MessengerDevice)
    (ciphertext : MessengerCiphertext) : Prop :=
  ∀ message envelope sender key, (decryptInboundMessage P device ciphertext).1 = .ok message →
    P.fromSlice ciphertext.ciphertext = some envelope →
    (∀ body, decodeBytes envelope.body = .ok body → OnlySealed P log body) →
    sender ∈ H.identities → decodeKey envelope.senderIdentityKey = .ok key →
    P.SamePoint key (P.publicKey sender) →
    ∃ s, Sealing.sent s ∈ log ∧ Produced device envelope message.body sender P s ∧
      ('|' ∉ chars envelope.senderDid → '|' ∉ chars envelope.senderDeviceId →
        '|' ∉ chars device.subjectDid → '|' ∉ chars device.deviceId →
        s.device.subjectDid = envelope.senderDid ∧ s.device.deviceId = envelope.senderDeviceId ∧
        s.bundle.subjectDid = device.subjectDid ∧ s.bundle.deviceId = device.deviceId ∧
        s.bundle.signedPreKeyId = device.signedPreKeyId ∧
        s.bundle.oneTimePreKeyId = envelope.oneTimePreKeyId)

theorem frame_of_sound {device : MessengerDevice} (h : device.Sound P)
    (ciphertext : MessengerCiphertext) : Frame P device ciphertext := by
  rcases decryptInboundMessage_cases P device ciphertext with
    ⟨e, he⟩ | ⟨envelope, parts, plaintext, hread, hopen, hdec⟩
  · refine ⟨fun _ _ => by rw [he], fun message hok => ?_⟩
    rw [he] at hok
    cases hok
  · obtain ⟨_, _, _, _, _, preKey, _, _, -, ho⟩ := openEnvelope_eq_ok hopen
    obtain ⟨hid, l, l', hsplit, hrest⟩ := h.filter_eq ho.found
    rw [hrest] at hdec
    refine ⟨fun e he => ?_, fun message hok => ?_⟩
    · rw [hdec] at he
      cases he
    · rw [hdec] at hok ⊢
      cases hok
      exact ⟨envelope, preKey, l, l', (readEnvelope_eq_ok hread).1, hid, hsplit, rfl⟩

theorem origin_of_honest (hP : Ideal P H) {log : List Sealing} (hlog : ∀ e ∈ log, e.Legit P H)
    {device : MessengerDevice} (hdevice : device.Honest H) (ciphertext : MessengerCiphertext) :
    Origin P H log device ciphertext := by
  intro message envelope sender key hok henv hsealed hsender hkey hpoint
  obtain ⟨s, hs, hproduced⟩ :=
    produced_of_accepted hP hlog hdevice hok henv hsealed hsender hkey hpoint
  refine ⟨s, hs, hproduced, fun h1 h2 h3 h4 => ?_⟩
  have hread : envelope.recipientDid = device.subjectDid ∧
      envelope.recipientDeviceId = device.deviceId ∧
      envelope.signedPreKeyId = device.signedPreKeyId := by
    rcases decryptInboundMessage_cases P device ciphertext with
      ⟨e, he⟩ | ⟨envelope', _, _, hread, -, -⟩
    · rw [he] at hok
      cases hok
    · obtain ⟨hslice, hnames⟩ := readEnvelope_eq_ok hread
      rwa [Option.some.inj (hslice.symm.trans henv)] at hnames
  obtain ⟨hdid, hdeviceId, hsigned⟩ := hread
  have hnames := hproduced.names
  rw [hdid, hdeviceId, hsigned] at hnames
  exact initialAad_inj h1 h2 h3 h4 hnames

end Origin

/-- **Initial messages.**  A message is decrypted by the device it was made for and both record one
session key; a decryption that fails leaves the device as it was, and one that succeeds takes the
one pre-key that was used; and an accepted message comes from the device whose identity key its
envelope tells. -/
theorem initial_message {P : Primitives} (hP : P.Lawful) :
    (∀ draw sender recipient preKey plaintext, Reachable P sender → Reachable P recipient →
      preKey ∈ recipient.oneTimePreKeys → RoundTrip P draw sender recipient preKey plaintext) ∧
    (∀ device ciphertext, Reachable P device → Frame P device ciphertext) ∧
    (∀ (H : Parties) (log : List Sealing) device ciphertext, Ideal P H →
      (∀ e ∈ log, e.Legit P H) → device.Honest H → Origin P H log device ciphertext) := by
  refine ⟨fun draw sender recipient preKey plaintext hs hr hk => ⟨fun ciphertext henc => ?_,
    fun hne => encryptInitialMessage_cases draw hs.sound hr.sound hk hne⟩,
    fun device ciphertext h => frame_of_sound h.sound ciphertext,
    fun H log device ciphertext hideal hlog hdevice => origin_of_honest hideal hlog hdevice _⟩
  obtain ⟨parts, _, -, -, -, -, hstate, hdec⟩ :=
    decryptInboundMessage_encrypt hP hs.sound hr.sound hk henc
  exact ⟨parts, hstate, hdec⟩

/-! ### A small exchange -/

/-- A binary that tells where it ends. -/
def framed (b : Binary) : Binary := b.flatMap (fun x => [1, x]) ++ [0]

theorem framed_append_inj {a b r t : Binary} (h : framed a ++ r = framed b ++ t) :
    a = b ∧ r = t := by
  induction a generalizing b with
  | nil =>
    cases b with
    | nil => exact ⟨rfl, List.append_cancel_left h⟩
    | cons y b => simp [framed] at h
  | cons x a ih =>
    cases b with
    | nil => simp [framed] at h
    | cons y b =>
      have hcons : ∀ z c l, framed (z :: c) ++ l = 1 :: z :: (framed c ++ l) := by
        intro z c l
        simp [framed]
      rw [hcons, hcons, List.cons.injEq, List.cons.injEq] at h
      obtain ⟨rfl, rfl⟩ := ih h.2.2
      exact ⟨by rw [h.2.1], rfl⟩

def toyKeyOf (b : UInt8) : Key := ⟨List.replicate 32 b, List.length_replicate⟩

/-- Two keys of one byte agree on the smaller and the larger one. -/
def toyAgree (a b : Key) : Key :=
  let x := a.1.headD 0
  let y := b.1.headD 0
  if a = toyKeyOf x ∧ b = toyKeyOf y then
    ⟨List.replicate 16 (UInt8.ofNat (min x.toNat y.toNat)) ++
      List.replicate 16 (UInt8.ofNat (max x.toNat y.toNat)), by simp⟩
  else toyKeyOf 255

def envelopeMembers (e : InitialMessageEnvelope) : List (String × Json) :=
  [("protocol_version", .str e.protocolVersion), ("ciphertext_type", .str e.ciphertextType),
    ("sender_did", .str e.senderDid), ("sender_device_id", .str e.senderDeviceId),
    ("sender_identity_key", .str e.senderIdentityKey), ("recipient_did", .str e.recipientDid),
    ("recipient_device_id", .str e.recipientDeviceId),
    ("signed_pre_key_id", .int e.signedPreKeyId), ("one_time_pre_key_id", .int e.oneTimePreKeyId),
    ("ephemeral_key", .str e.ephemeralKey), ("nonce", .str e.nonce), ("body", .str e.body)]

def envelopeOf (j : Json) : InitialMessageEnvelope :=
  let text (key : String) : String := ((j.fetch key).str?).getD ""
  let number (key : String) : ℕ := match j.fetch key with
    | .int n => n.toNat
    | _ => 0
  { protocolVersion := text "protocol_version", ciphertextType := text "ciphertext_type",
    senderDid := text "sender_did", senderDeviceId := text "sender_device_id",
    senderIdentityKey := text "sender_identity_key", recipientDid := text "recipient_did",
    recipientDeviceId := text "recipient_device_id", signedPreKeyId := number "signed_pre_key_id",
    oneTimePreKeyId := number "one_time_pre_key_id", ephemeralKey := text "ephemeral_key",
    nonce := text "nonce", body := text "body" }

/-- A cipher that only frames, on a curve of small keys. -/
def toyPrimitives : Primitives where
  publicKey k := k
  diffieHellman := toyAgree
  hkdf _ material info := info ++ material
  sha256 b := b
  encrypt key nonce aad msg := some (framed key ++ (framed nonce ++ (framed aad ++ msg)))
  decrypt key nonce aad box := afterPrefix (framed key ++ (framed nonce ++ framed aad)) box
  toVec e := (Json.encode (.obj (envelopeMembers e))).utf8
  fromSlice b := (Json.decodeBytes b).map envelopeOf
  sessionText s := s.rootKey

theorem afterPrefix_eq_some {pre s r : Binary} : afterPrefix pre s = some r ↔ s = pre ++ r := by
  unfold afterPrefix
  split
  · next h =>
    obtain ⟨t, rfl⟩ := List.isPrefixOf_iff_prefix.1 h
    rw [List.drop_left, Option.some.injEq]
    exact ⟨fun h => by rw [h], fun h => List.append_cancel_left h⟩
  · next h =>
    constructor
    · intro h
      cases h
    · rintro rfl
      exact absurd (List.isPrefixOf_iff_prefix.2 (List.prefix_append _ _)) h

theorem lawful_toyPrimitives : toyPrimitives.Lawful where
  diffieHellman_comm a b := by
    simp only [toyPrimitives, toyAgree, and_comm (a := a = _), min_comm (a.1.headD 0).toNat,
      max_comm (a.1.headD 0).toNat]
  decrypt_encrypt {key nonce aad msg box} h := by
    cases h
    exact afterPrefix_eq_some.2 (by simp only [List.append_assoc])
  fromSlice_toVec e := by
    have hdetermined : (Json.obj (envelopeMembers e)).Determined := by
      refine ⟨show List.Nodup ["protocol_version", "ciphertext_type", "sender_did",
        "sender_device_id", "sender_identity_key", "recipient_did", "recipient_device_id",
        "signed_pre_key_id", "one_time_pre_key_id", "ephemeral_key", "nonce", "body"] by decide, ?_⟩
      simp [envelopeMembers, Json.DeterminedFields, Json.Determined]
    dsimp only [toyPrimitives]
    rw [Json.decodeBytes, decodeUtf8_utf8, if_pos rfl, Json.decode_encode_of_determined hdetermined]
    rfl

def toyParties : Parties where
  identities := {k | ∃ b : UInt8, b.toNat < 3 ∧ k = toyKeyOf b}
  preKeys := {k | ∃ b : UInt8, 3 ≤ b.toNat ∧ b.toNat < 200 ∧ k = toyKeyOf b}
  disjoint := by
    rintro k ⟨b, hb, rfl⟩ ⟨c, hc, -, h⟩
    have hbc : b = c := (List.cons.inj (congrArg Subtype.val h)).1
    rw [hbc] at hb
    omega

theorem exists_of_toySecret {k : Key} (h : k ∈ toyParties.secrets) :
    ∃ b : UInt8, b.toNat < 200 ∧ k = toyKeyOf b := by
  rcases h with ⟨b, hb, rfl⟩ | ⟨b, -, hb, rfl⟩
  · exact ⟨b, by omega, rfl⟩
  · exact ⟨b, hb, rfl⟩

theorem toyAgree_toyKeyOf (a b : UInt8) : (toyAgree (toyKeyOf a) (toyKeyOf b)).1
    = List.replicate 16 (UInt8.ofNat (min a.toNat b.toNat)) ++
      List.replicate 16 (UInt8.ofNat (max a.toNat b.toNat)) := by
  simp only [toyAgree, toyKeyOf, List.replicate_succ, List.headD_cons, and_self, if_true]

theorem ideal_toyPrimitives : Ideal toyPrimitives toyParties where
  agreement x hx a ha b hb key h := by
    obtain ⟨i, hi, rfl⟩ := exists_of_toySecret hx
    obtain ⟨j, hj, rfl⟩ := exists_of_toySecret ha
    obtain ⟨k, hk, rfl⟩ := exists_of_toySecret hb
    have hval := congrArg Subtype.val (show toyAgree (toyKeyOf i) key
      = toyAgree (toyKeyOf j) (toyKeyOf k) from h)
    rw [toyAgree_toyKeyOf] at hval
    by_cases hkey : key = toyKeyOf (key.1.headD 0)
    · generalize key.1.headD 0 = q at hkey
      subst hkey
      rw [toyAgree_toyKeyOf] at hval
      obtain ⟨hmin, hmax⟩ := List.append_inj hval (by simp)
      have hmin' := congrArg UInt8.toNat (List.cons.inj hmin).1
      have hmax' := congrArg UInt8.toNat (List.cons.inj hmax).1
      have hq := q.toNat_lt
      rw [UInt8.toNat_ofNat', UInt8.toNat_ofNat'] at hmin' hmax'
      have hcases : i.toNat = j.toNat ∧ q.toNat = k.toNat ∨ i.toNat = k.toNat ∧
          q.toNat = j.toNat := by omega
      simp only [UInt8.toNat_inj] at hcases
      rcases hcases with ⟨rfl, rfl⟩ | ⟨rfl, rfl⟩
      · exact .inl ⟨rfl, fun _ => rfl⟩
      · exact .inr ⟨rfl, fun _ => rfl⟩
    · rw [toyAgree, if_neg (fun h => hkey h.2)] at hval
      have hlast := congrArg (fun l => l.getLast?) hval
      simp [toyKeyOf] at hlast
      have := congrArg UInt8.toNat hlast
      rw [UInt8.toNat_ofNat'] at this
      have : (255 : UInt8).toNat = 255 := rfl
      omega
  derivation _ _ _ _ h := List.append_cancel_left h

def toyAlice : MessengerDevice :=
  newDevice toyPrimitives ⟨toyKeyOf 1, toyKeyOf 3, 1, [1]⟩ "did:a"

def toyBob : MessengerDevice :=
  (generateOneTimePreKeys toyPrimitives [toyKeyOf 5]
    (newDevice toyPrimitives ⟨toyKeyOf 2, toyKeyOf 4, 1, [2]⟩ "did:b")).2

def toyPreKey : MessengerPreKey := ⟨1, encodeBytes (toyKeyOf 5), encodeBytes (toyKeyOf 5)⟩

theorem toyPreKey_mem : toyPreKey ∈ toyBob.oneTimePreKeys := List.mem_singleton.2 rfl

theorem reachable_toyAlice : Reachable toyPrimitives toyAlice :=
  ⟨_, "did:a", toyAlice, [], if_neg (by decide +kernel), rfl⟩

theorem reachable_toyBob : Reachable toyPrimitives toyBob :=
  ⟨_, "did:b", _, [.generate [toyKeyOf 5]], if_neg (by decide +kernel), rfl⟩

theorem honest_toyAlice : toyAlice.Honest toyParties where
  identity k h := by
    rw [show toyAlice.identityKeyPrivate = encodeBytes (toyKeyOf 1) from rfl,
      decodeKey_encodeBytes] at h
    exact ⟨1, by decide, (Except.ok.inj h).symm⟩
  signedPreKey k h := by
    rw [show toyAlice.signedPreKeyPrivate = encodeBytes (toyKeyOf 3) from rfl,
      decodeKey_encodeBytes] at h
    exact ⟨3, by decide, by decide, (Except.ok.inj h).symm⟩
  oneTimePreKeys p hp := nomatch hp

theorem honest_toyBob : toyBob.Honest toyParties where
  identity k h := by
    rw [show toyBob.identityKeyPrivate = encodeBytes (toyKeyOf 2) from rfl,
      decodeKey_encodeBytes] at h
    exact ⟨2, by decide, (Except.ok.inj h).symm⟩
  signedPreKey k h := by
    rw [show toyBob.signedPreKeyPrivate = encodeBytes (toyKeyOf 4) from rfl,
      decodeKey_encodeBytes] at h
    exact ⟨4, by decide, by decide, (Except.ok.inj h).symm⟩
  oneTimePreKeys p hp k h := by
    obtain rfl : p = toyPreKey := List.mem_singleton.1 hp
    rw [show toyPreKey.privateKey = encodeBytes (toyKeyOf 5) from rfl, decodeKey_encodeBytes] at h
    exact ⟨5, by decide, by decide, (Except.ok.inj h).symm⟩

def toyDraw : MessageDraw := ⟨toyKeyOf 6, List.replicate 24 0, List.length_replicate⟩

/-- A text of Alice for Bob. -/
def toySending : Sending := ⟨toyDraw, toyAlice, toyBob.publicBundle toyPreKey, [104, 105]⟩

/-- What a sending seals opens only as it was sealed. -/
theorem onlySealed_toy {s : Sending} {ciphertext : MessengerCiphertext}
    (h : encryptInitialMessage toyPrimitives s.draw s.device s.bundle s.plaintext
      = .ok ciphertext) :
    ∃ envelope, toyPrimitives.fromSlice ciphertext.ciphertext = some envelope ∧
      envelope.senderIdentityKey = s.device.identityKeyPublic ∧
      ∀ body, decodeBytes envelope.body = .ok body → OnlySealed toyPrimitives [.sent s] body := by
  obtain ⟨_, _, _, _, parts, box, h1, h2, h3, h4, hparts, henc, rfl⟩ :=
    encryptInitialMessage_eq_ok h
  refine ⟨_, lawful_toyPrimitives.fromSlice_toVec _, rfl, fun body hbody => ?_⟩
  obtain rfl : box = body := Except.ok.inj ((decodeBytes_encodeBytes box).symm.trans hbody)
  intro key nonce aad plaintext hdec
  have hbox := afterPrefix_eq_some.1
    (show afterPrefix (framed key ++ (framed nonce ++ framed aad)) _
    = some plaintext from hdec)
  rw [← Option.some.inj henc] at hbox
  simp only [List.append_assoc] at hbox
  obtain ⟨hkey, hbox⟩ := framed_append_inj hbox
  obtain ⟨hnonce, hbox⟩ := framed_append_inj hbox
  obtain ⟨haad, hplain⟩ := framed_append_inj hbox
  exact ⟨_, List.mem_singleton_self _, _, _, _, _, h1, h2, h3, h4, hparts ▸ hkey.symm, hnonce.symm,
    haad.symm, hplain.symm⟩

theorem initial_message_toy : ∃ ciphertext message envelope,
    encryptInitialMessage toyPrimitives toyDraw toyAlice (toyBob.publicBundle toyPreKey) [104, 105]
      = .ok ciphertext ∧
    (decryptInboundMessage toyPrimitives toyBob ciphertext).1 = .ok message ∧
    message.body = [104, 105] ∧ Frame toyPrimitives toyBob ciphertext ∧
    toyPrimitives.fromSlice ciphertext.ciphertext = some envelope ∧
    ∃ s, Sealing.sent s ∈ [Sealing.sent toySending] ∧
      Produced toyBob envelope message.body (toyKeyOf 1) toyPrimitives s := by
  have law := initial_message lawful_toyPrimitives
  have hround := law.1 toyDraw toyAlice toyBob toyPreKey [104, 105] reachable_toyAlice
    reachable_toyBob toyPreKey_mem
  rcases hround.encrypts (by decide) with ⟨ciphertext, henc⟩ | ⟨-, _, _, _, hnone⟩
  · obtain ⟨_, -, hdec⟩ := hround.decrypts ciphertext henc
    obtain ⟨envelope, hslice, hsender, hsealed⟩ := onlySealed_toy (s := toySending) henc
    have hkey : decodeKey envelope.senderIdentityKey
        = .ok (toyPrimitives.publicKey (toyKeyOf 1)) := by
      rw [hsender]
      exact decodeKey_encodeBytes (toyKeyOf 1)
    have hlegit : ∀ e ∈ [Sealing.sent toySending], e.Legit toyPrimitives toyParties := by
      intro e he
      obtain rfl := List.mem_singleton.1 he
      exact ⟨honest_toyAlice, ⟨6, by decide, by decide, rfl⟩, ciphertext, henc⟩
    obtain ⟨s, hs, hproduced, -⟩ := law.2.2 toyParties [.sent toySending] toyBob ciphertext
      ideal_toyPrimitives hlegit honest_toyBob _ envelope (toyKeyOf 1) _ hdec hslice hsealed
      ⟨1, by decide, rfl⟩ hkey fun _ => rfl
    exact ⟨ciphertext, _, envelope, henc, hdec, rfl, law.2.1 toyBob ciphertext reachable_toyBob,
      hslice, s, hs, hproduced⟩
  · cases hnone

/-- A device with the names of Alice and a key of its own. -/
def toyMallory : MessengerDevice := { toyAlice with
  identityKeyPublic := encodeBytes (toyKeyOf 250)
  identityKeyPrivate := encodeBytes (toyKeyOf 250) }

/-- Bob takes a message of another for one of Alice, whose published key is not the one that the
message tells. -/
theorem sender_key_self_declared : ∃ ciphertext message envelope,
    encryptInitialMessage toyPrimitives toyDraw toyMallory
      (toyBob.publicBundle toyPreKey) [104, 105]
      = .ok ciphertext ∧
    (decryptInboundMessage toyPrimitives toyBob ciphertext).1 = .ok message ∧
    toyPrimitives.fromSlice ciphertext.ciphertext = some envelope ∧
    envelope.senderDid = toyAlice.subjectDid ∧ envelope.senderDeviceId = toyAlice.deviceId ∧
    envelope.senderIdentityKey ≠ toyAlice.identityKeyPublic := by
  have hmallory : toyMallory.Sound toyPrimitives := by
    have halice := reachable_toyAlice.sound
    exact ⟨⟨_, rfl, rfl⟩, halice.signedPreKey, halice.oneTimePreKeys, halice.nodup, halice.lt_next⟩
  rcases encryptInitialMessage_cases toyDraw hmallory reachable_toyBob.sound toyPreKey_mem
    (show ([104, 105] : Binary) ≠ [] by decide) with ⟨ciphertext, henc⟩ | ⟨-, _, _, _, hnone⟩
  · obtain ⟨_, envelope, hslice, hdid, hdevice, hkey, -, hdec⟩ := decryptInboundMessage_encrypt
      lawful_toyPrimitives hmallory reachable_toyBob.sound toyPreKey_mem henc
    refine ⟨ciphertext, _, envelope, henc, hdec, hslice, hdid, hdevice, ?_⟩
    rw [hkey]
    intro h
    have hread := decodeKey_encodeBytes (toyKeyOf 250)
    rw [show encodeBytes (toyKeyOf 250) = encodeBytes (toyKeyOf 1) from h,
      decodeKey_encodeBytes] at hread
    exact absurd (congrArg (fun k => k.1.headD 0) (Except.ok.inj hread)) (by decide)
  · cases hnone

end Messenger

end Ansible
