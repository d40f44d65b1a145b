import Ansible.Lib.Checks
import Ansible.Lib.Table
import Ansible.Relay.SigVerifier
import Mathlib.Data.List.Sort

/-!
# The messenger store

The relay keeps the public bundle of every device, one-time pre-keys that are handed out with the
bundles, and messages whose content it cannot read.

## Main definitions

* `MessengerDevice`, `PreKey`, `Message`, `Ack` — the rows of the four tables.
* `MessengerStore.publishDevice`, `publishPreKeys` — the upsert of a device, and the insertion of
  pre-keys that skips the identifiers that are taken.
* `MessengerStore.storeMessage`, `mailbox`, `ack` — delivery.
-/

namespace Ansible

/-! ### Rows -/

structure MessengerDevice where
  subjectDid : String
  deviceId : String
  messengerIdentityKey : String
  signedPreKeyId : ℤ
  signedPreKey : String
  signedPreKeySignature : String
  expiresAt : Option String
  binding : Json
  bindingSignature : String

structure PreKey where
  subjectDid : String
  deviceId : String
  preKeyId : ℤ
  preKey : String
  reservedAt : Option Time
  deriving DecidableEq

structure Message where
  messageId : String
  senderDid : String
  senderDeviceId : String
  recipientDid : String
  recipientDeviceId : String
  ciphertextType : String
  ciphertext : String
  protocolVersion : String
  messageCreatedAt : Option String
  insertedAt : Time
  deriving DecidableEq

structure Ack where
  messageId : String
  recipientDeviceId : String
  ackedAt : Time
  deriving DecidableEq

/-- The column pair of the unique index of the devices. -/
def MessengerDevice.key (d : MessengerDevice) : String × String := (d.subjectDid, d.deviceId)

def PreKey.device (p : PreKey) : String × String := (p.subjectDid, p.deviceId)

def PreKey.key (p : PreKey) : String × String × ℤ := (p.subjectDid, p.deviceId, p.preKeyId)

def Ack.key (a : Ack) : String × String := (a.messageId, a.recipientDeviceId)

/-- Messages by the time of their creation, those without one last, then by that of their
insertion. -/
def Message.before (a b : Message) : Bool :=
  match a.messageCreatedAt, b.messageCreatedAt with
  | some x, some y => decide (x < y) || (decide (x = y) && decide (a.insertedAt ≤ b.insertedAt))
  | some _, none => true
  | none, some _ => false
  | none, none => decide (a.insertedAt ≤ b.insertedAt)

/-! ### Columns -/

/-- A value of an `integer` column. -/
def fitsInteger (i : ℤ) : Bool := decide (-2147483648 ≤ i) && decide (i ≤ 2147483647)

def MessengerDevice.storable (d : MessengerDevice) : Bool :=
  fitsVarchar d.subjectDid && fitsVarchar d.deviceId && fitsText d.messengerIdentityKey &&
    fitsInteger d.signedPreKeyId && fitsText d.signedPreKey && fitsText d.signedPreKeySignature &&
    d.expiresAt.all fitsVarchar && d.binding.isObj && fitsText d.bindingSignature

def PreKey.storable (p : PreKey) : Bool :=
  fitsVarchar p.subjectDid && fitsVarchar p.deviceId && fitsInteger p.preKeyId && fitsText p.preKey

def Message.storable (m : Message) : Bool :=
  fitsVarchar m.messageId && fitsVarchar m.senderDid && fitsVarchar m.senderDeviceId &&
    fitsVarchar m.recipientDid && fitsVarchar m.recipientDeviceId &&
    fitsVarchar m.ciphertextType && fitsText m.ciphertext && fitsVarchar m.protocolVersion &&
    m.messageCreatedAt.all fitsVarchar

/-! ### The store -/

abbrev DeviceTable := Table MessengerDevice (UniqueOn MessengerDevice.key fun _ => true)

abbrev PreKeyTable := Table PreKey (UniqueOn PreKey.key fun _ => true)

abbrev MessageTable := Table Message (UniqueOn Message.messageId fun _ => true)

abbrev AckTable := Table Ack (UniqueOn Ack.key fun _ => true)

structure MessengerStore where
  devices : DeviceTable
  preKeys : PreKeyTable
  messages : MessageTable
  acks : AckTable

inductive MessengerError
  | required (key : String)
  | deviceNotFound
  | plaintextNotAllowed
  | duplicateMessage
  | notFound
  | recipientMismatch
  /-- The request fails with an exception. -/
  | raised
  deriving DecidableEq, Repr

namespace MessengerStore

def empty : MessengerStore where
  devices := ⟨[], by decide⟩
  preKeys := ⟨[], by decide⟩
  messages := ⟨[], by decide⟩
  acks := ⟨[], by decide⟩

def plaintextFields : List String := ["plaintext", "body", "message", "text"]

/-! ### Reading requests -/

def fetchString (attrs : Json) (key : String) : Except MessengerError String :=
  match attrs.fetch key with
  | .str value => if isBlank value then .error (.required key) else .ok value
  | _ => .error (.required key)

def fetchInteger (attrs : Json) (key : String) : Except MessengerError ℤ :=
  match attrs.fetch key with
  | .int value => .ok value
  | _ => .error (.required key)

def fetchMap (attrs : Json) (key : String) : Except MessengerError Json :=
  match attrs.fetch key with
  | .obj fields => .ok (.obj fields)
  | _ => .error (.required key)

def fetchList (attrs : Json) (key : String) : Except MessengerError (List Json) :=
  match attrs.fetch key with
  | .arr values => .ok values
  | _ => .error (.required key)

/-- A member that is stored as it is: the insert raises on what is neither a text nor `nil`. -/
def optionalText (attrs : Json) (key : String) : Except MessengerError (Option String) :=
  match attrs.fetch key with
  | .str value => .ok (some value)
  | .null => .ok none
  | _ => .error .raised

/-! ### Devices and pre-keys -/

/-- The row that a published device asks for. -/
def deviceOf (attrs : Json) : Except MessengerError MessengerDevice := do
  let subjectDid ← fetchString attrs "subject_did"
  let deviceId ← fetchString attrs "device_id"
  let bundle ← fetchMap attrs "bundle"
  let messengerIdentityKey ← fetchString bundle "messenger_identity_key"
  let signedPreKeyId ← fetchInteger bundle "signed_pre_key_id"
  let signedPreKey ← fetchString bundle "signed_pre_key"
  let signedPreKeySignature ← fetchString bundle "signed_pre_key_signature"
  let bindingSignature ← fetchString attrs "binding_signature"
  let expiresAt ← optionalText bundle "expires_at"
  let device : MessengerDevice :=
    { subjectDid, deviceId, messengerIdentityKey, signedPreKeyId, signedPreKey,
      signedPreKeySignature, expiresAt, bindingSignature
      binding := (attrs.get? "binding").getD (.obj []) }
  ensure device.storable .raised
  return device

/-- The device of the index entry is replaced, or inserted. -/
def upsertDevice (d : MessengerDevice) (t : DeviceTable) : Option DeviceTable :=
  t.upsert (fun x => x.key == d.key) d fun _ => d

def publishDevice (attrs : Json) (s : MessengerStore) :
    Except MessengerError MessengerDevice × MessengerStore :=
  match deviceOf attrs with
  | .error e => (.error e, s)
  | .ok d =>
    match upsertDevice d s.devices with
    | none => (.error .raised, s)
    | some devices => (.ok d, { s with devices })

/-- `Map.get/2` raises on what is not a map. -/
def ensureMap : Json → Except MessengerError Unit
  | .obj _ => .ok ()
  | _ => .error .raised

def normalizePreKey (preKey : Json) : Except MessengerError (ℤ × String) := do
  ensureMap preKey
  let preKeyId ← fetchInteger preKey "pre_key_id"
  let publicKey ← fetchString preKey "pre_key"
  return (preKeyId, publicKey)

def normalizePreKeys : List Json → Except MessengerError (List (ℤ × String))
  | [] => .ok []
  | preKey :: rest => do
    let head ← normalizePreKey preKey
    let tail ← normalizePreKeys rest
    return head :: tail

def deviceExists (key : String × String) (s : MessengerStore) : Bool :=
  s.devices.rows.any fun d => d.key == key

/-- One row of `INSERT … ON CONFLICT DO NOTHING`. -/
def insertPreKey (t : PreKeyTable) (p : PreKey) : PreKeyTable := (t.insert p).getD t

/-- The rows that published pre-keys ask for. -/
def preKeysOf (attrs : Json) (s : MessengerStore) : Except MessengerError (List PreKey) := do
  let subjectDid ← fetchString attrs "subject_did"
  let deviceId ← fetchString attrs "device_id"
  let preKeys ← fetchList attrs "pre_keys"
  ensure (deviceExists (subjectDid, deviceId) s) .deviceNotFound
  let normalized ← normalizePreKeys preKeys
  let rows : List PreKey := normalized.map fun k => ⟨subjectDid, deviceId, k.1, k.2, none⟩
  ensure (rows.all PreKey.storable) .raised
  return rows

/-- A device that is there stays there, so that the check and the insertion are one step. -/
def publishPreKeys (attrs : Json) (s : MessengerStore) :
    Except MessengerError (List PreKey) × MessengerStore :=
  match preKeysOf attrs s with
  | .error e => (.error e, s)
  | .ok rows => (.ok rows, { s with preKeys := rows.foldl insertPreKey s.preKeys })

/-- The devices of a subject, by the order of their identifiers. -/
def devicesOf (subjectDid : String) (s : MessengerStore) : List MessengerDevice :=
  (s.devices.rows.filter fun d => d.subjectDid == subjectDid).insertionSort
    fun a b => a.deviceId ≤ b.deviceId

/-- The first pre-key of a device that is neither reserved nor locked. -/
def nextPreKey (device : String × String) (locked : PreKey → Bool) (s : MessengerStore) :
    Option PreKey :=
  ((s.preKeys.rows.filter fun p => p.device == device && p.reservedAt.isNone &&
    !locked p).insertionSort fun a b => a.preKeyId ≤ b.preKeyId).head?

/-- The row as the transaction that took it has written it. -/
def reserved (taken : List PreKey) (p : PreKey) : PreKey :=
  match taken.find? fun q => q.key == p.key with
  | some q => { p with reservedAt := q.reservedAt }
  | none => p

@[simp] theorem reserved_key (taken : List PreKey) (p : PreKey) :
    (reserved taken p).key = p.key := by
  unfold reserved
  split <;> rfl

def commitReserved (taken : List PreKey) (t : PreKeyTable) : PreKeyTable where
  rows := t.rows.map (reserved taken)
  valid := t.valid.map (reserved_key taken) fun _ _ => rfl

/-! ### Messages -/

def rejectPlaintextFields (attrs : Json) : Except MessengerError Unit :=
  ensure (!plaintextFields.any fun key => (attrs.get? key).isSome) .plaintextNotAllowed

def findMessage (messageId : String) (s : MessengerStore) : Option Message :=
  s.messages.find fun m => m.messageId == messageId

/-- The row that a message asks for. -/
def messageOf (now : Time) (attrs : Json) (s : MessengerStore) :
    Except MessengerError Message := do
  rejectPlaintextFields attrs
  let messageId ← fetchString attrs "message_id"
  let senderDid ← fetchString attrs "sender_did"
  let senderDeviceId ← fetchString attrs "sender_device_id"
  let recipientDid ← fetchString attrs "recipient_did"
  let recipientDeviceId ← fetchString attrs "recipient_device_id"
  let ciphertextType ← fetchString attrs "ciphertext_type"
  let ciphertext ← fetchString attrs "ciphertext"
  let protocolVersion ← fetchString attrs "protocol_version"
  ensure (findMessage messageId s).isNone .duplicateMessage
  let messageCreatedAt ← optionalText attrs "created_at"
  let message : Message :=
    { messageId, senderDid, senderDeviceId, recipientDid, recipientDeviceId, ciphertextType,
      ciphertext, protocolVersion, messageCreatedAt
      insertedAt := now }
  ensure message.storable .raised
  return message

def storeMessage (now : Time) (attrs : Json) (s : MessengerStore) :
    Except MessengerError Message × MessengerStore :=
  match messageOf now attrs s with
  | .error e => (.error e, s)
  | .ok m =>
    match s.messages.insert m with
    | none => (.error .raised, s)
    | some messages => (.ok m, { s with messages })

def ackedMessageIds (recipientDeviceId : String) (s : MessengerStore) : List String :=
  (s.acks.rows.filter fun a => a.recipientDeviceId == recipientDeviceId).map (·.messageId)

/-- The messages of a recipient, without those that its device has acknowledged. -/
def mailbox (recipientDid recipientDeviceId : String) (s : MessengerStore) : List Message :=
  ((s.messages.rows.filter fun m => m.recipientDid == recipientDid &&
      m.recipientDeviceId == recipientDeviceId).insertionSort fun a b => a.before b).filter
    fun m => !(ackedMessageIds recipientDeviceId s).contains m.messageId

/-- `INSERT … ON CONFLICT DO NOTHING` -/
def insertAck (a : Ack) (t : AckTable) : AckTable := (t.insert a).getD t

def ack (now : Time) (messageId recipientDid recipientDeviceId : String) (s : MessengerStore) :
    Except MessengerError Message × MessengerStore :=
  match findMessage messageId s with
  | none => (.error .notFound, s)
  | some m =>
    if m.recipientDid = recipientDid ∧ m.recipientDeviceId = recipientDeviceId then
      (.ok m, { s with acks := insertAck ⟨messageId, recipientDeviceId, now⟩ s.acks })
    else (.error .recipientMismatch, s)

end MessengerStore

end Ansible
