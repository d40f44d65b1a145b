import Ansible.Lib.Assoc
import Ansible.Lib.Run
import Ansible.Relay.SigVerifier

/-!
# Pulling messages

The app opens each message of its mailbox, stores it, and acknowledges it to the relay.  Whatever
fails on the way, the message is then stored as one that could not be opened.  Messages are stored
under the ids that their senders give them; their texts go to the secure storage of the device.

## Main definitions

* `Messenger` — the tables of the app, and the mailbox that the relay keeps for it.
* `Attempt` — what becomes of the steps of an attempt to store a message.
* `Messenger.decryptAndStore`, `Messenger.pullAndDecrypt`, `Messenger.sendText` — the operations.
* `WriteSet`, `Writes` — what is written of one message.

## Main results

* `decryptAndStore_spec`, `sendText_spec` — **what an attempt and a sending do.**
-/

namespace Ansible

/-! ### Records -/

inductive MessageDirection
  | inbound
  | outbound
  deriving DecidableEq, Repr

inductive MessageStatus
  | pending
  | sent
  | received
  | decryptFailed
  | acked
  deriving DecidableEq, Repr

structure MessengerMessageRecord where
  messageId : String
  conversationId : String
  direction : MessageDirection
  status : MessageStatus
  /-- The text, or a reference to it. -/
  plaintext : Option String
  ciphertextType : String
  ciphertext : String
  createdAt : Time
  updatedAt : Time
  deriving DecidableEq

structure MessengerConversation where
  peerDid : String
  createdAt : Time
  updatedAt : Time
  lastMessageAt : Time

structure MessengerSession where
  remoteDid : String
  sessionState : String
  updatedAt : Time

inductive ContactRelationship
  | following
  | follower
  | mutual
  | conversation
  | boardPeer
  | invite
  | manual
  | unknown
  | blocked
  deriving DecidableEq, Repr

structure Contact where
  relationship : ContactRelationship
  source : String

structure MessengerMailboxMessage where
  messageId : String
  senderDid : String
  senderDeviceId : String
  ciphertextType : String
  ciphertext : String
  createdAt : Option Time
  deriving DecidableEq

/-- A message that was stored as received. -/
@[ext]
structure ReceivedMessage where
  messageId : String
  senderDid : String
  text : String
  deriving DecidableEq

structure Messenger where
  /-- The device that the app runs on. -/
  deviceId : String
  messages : Assoc String MessengerMessageRecord
  conversations : Assoc String MessengerConversation
  /-- The secure storage. -/
  secrets : Assoc String String
  /-- The sessions of the device, by the devices of the peers. -/
  sessions : Assoc String MessengerSession
  contacts : Assoc String Contact
  cursor : Option String
  /-- What the relay offers to the device. -/
  mailbox : List MessengerMailboxMessage
  /-- Every message that was stored as received, whatever became of it. -/
  received : List ReceivedMessage

/-! ### Attempts -/

/-- The steps after a message was opened. -/
inductive PullStage
  | secret
  | message
  | contact
  | notification
  | sessionSecret
  | session
  | acknowledgement
  deriving DecidableEq, Repr

/-- What becomes of the steps. -/
structure Attempt where
  now : Time
  /-- The text and the state of the session, when the message is opened. -/
  opened : Option (String × String)
  /-- The step that fails. -/
  failsAt : Option PullStage
  /-- An acknowledgement that fails has reached the relay all the same. -/
  acknowledged : Bool
  /-- What has failed is stored. -/
  failureSaved : Bool

/-- A message that the app sends. -/
structure OutgoingMessage where
  messageId : String
  recipientDid : String
  remoteDeviceId : String
  text : String
  sessionState : String
  ciphertextType : String
  ciphertext : String
  createdAt : Time
  /-- The relay has taken it. -/
  sent : Bool

structure DecryptStoreResult where
  received : Bool
  messageRequest : Bool
  deriving DecidableEq, Repr

structure MessengerPullResult where
  receivedMessages : ℕ
  messageRequests : ℕ
  deriving DecidableEq, Repr

namespace Messenger

def empty (deviceId : String) : Messenger := ⟨deviceId, ∅, ∅, ∅, ∅, ∅, none, [], []⟩

/-! ### Secrets -/

def referencePrefix : String := "secure-storage:v1:"

def hasPrefix (pre text : String) : Bool := (chars pre).isPrefixOf (chars text)

def isSecretReference (value : String) : Bool :=
  hasPrefix referencePrefix value || hasPrefix "secure:" value

/-- `_secureSecret`: what a column holds of a secret, and the secure storage.  A secret that looks
like a reference is taken for one. -/
def secureSecret (scope secretId value : String) (secrets : Assoc String String) :
    String × Assoc String String :=
  if isSecretReference value then (value, secrets)
  else (referencePrefix ++ scope ++ ":" ++ secretId,
    secrets.insert (scope ++ "." ++ secretId) value)

/-- Where the secret of a reference is stored; the last colon parts the two names. -/
def storageKey (tail : Text) : Option String :=
  let secretId := (tail.reverse.takeWhile (· != ':')).reverse
  let rest := tail.reverse.dropWhile (· != ':')
  if secretId = [] ∨ rest.length ≤ 1 then none
  else some (String.ofList (rest.tail.reverse ++ '.' :: secretId))

/-- The secret that a column refers to. -/
def shownKey (value : String) : Option String :=
  if hasPrefix referencePrefix value then
    storageKey ((chars value).drop (chars referencePrefix).length)
  else none

def resolveSecret (value : String) (secrets : Assoc String String) : Option String :=
  if hasPrefix referencePrefix value then (shownKey value).bind secrets.lookup else some value

/-- `_resolveMessage`, of its text -/
def textOf (s : Messenger) (r : MessengerMessageRecord) : Option String :=
  r.plaintext.bind fun column => resolveSecret column s.secrets

def messageScope (messageId : String) : String := "message." ++ messageId

def sessionScope (localDeviceId remoteDeviceId : String) : String :=
  "session." ++ localDeviceId ++ "." ++ remoteDeviceId

/-! ### Writes -/

/-- A message is written over the one with its id. -/
def saveMessage (r : MessengerMessageRecord) (s : Messenger) : Messenger :=
  { s with
    conversations := s.conversations.insert r.conversationId
      ⟨r.conversationId, r.createdAt, r.updatedAt, r.createdAt⟩
    messages := s.messages.insert r.messageId r }

/-- The contacts, and whether the message is a request of somebody new. -/
def recordMessageRequestIfNeeded (senderDid : String) (s : Messenger) : Bool × Messenger :=
  let invite := { s with contacts := s.contacts.insert senderDid ⟨.invite, "message_request"⟩ }
  match s.contacts.lookup senderDid with
  | none => (true, invite)
  | some contact =>
    if contact.relationship = .unknown then (true, invite)
    else (contact.relationship == .invite || contact.source == "message_request", s)

def saveSession (m : MessengerMailboxMessage) (sessionState : String) (now : Time)
    (s : Messenger) : Messenger :=
  { s with sessions := s.sessions.insert m.senderDeviceId ⟨m.senderDid, sessionState, now⟩ }

/-- The relay does not offer the message again. -/
def ackMessage (messageId : String) (s : Messenger) : Messenger :=
  { s with mailbox := s.mailbox.filter (·.messageId ≠ messageId) }

def receivedRow (m : MessengerMailboxMessage) (a : Attempt) (column : String) :
    MessengerMessageRecord where
  messageId := m.messageId
  conversationId := m.senderDid
  direction := .inbound
  status := .received
  plaintext := some column
  ciphertextType := m.ciphertextType
  ciphertext := m.ciphertext
  createdAt := m.createdAt.getD a.now
  updatedAt := a.now

def failedRow (m : MessengerMailboxMessage) (a : Attempt) : MessengerMessageRecord where
  messageId := m.messageId
  conversationId := m.senderDid
  direction := .inbound
  status := .decryptFailed
  plaintext := none
  ciphertextType := m.ciphertextType
  ciphertext := m.ciphertext
  createdAt := m.createdAt.getD a.now
  updatedAt := a.now

/-- The steps in their order; the result says whether the message is a request, when none of them
fails. -/
def storeOpened (m : MessengerMailboxMessage) (a : Attempt) (text sessionState : String)
    (s : Messenger) : Option Bool × Messenger :=
  if a.failsAt = some .secret then (none, s)
  else
    let (column, secrets) := secureSecret (messageScope m.messageId) "plaintext" text s.secrets
    let s := { s with secrets }
    if a.failsAt = some .message then (none, s)
    else
      let s := { s.saveMessage (receivedRow m a column) with
        received := s.received ++ [⟨m.messageId, m.senderDid, text⟩] }
      if a.failsAt = some .contact then (none, s)
      else
        let (isRequest, s) := s.recordMessageRequestIfNeeded m.senderDid
        if a.failsAt = some .notification ∨ a.failsAt = some .sessionSecret then (none, s)
        else
          let (state, secrets) :=
            secureSecret (sessionScope s.deviceId m.senderDeviceId) "state" sessionState s.secrets
          let s := { s with secrets }
          if a.failsAt = some .session then (none, s)
          else
            let s := s.saveSession m state a.now
            if a.failsAt = some .acknowledgement then
              (none, if a.acknowledged then s.ackMessage m.messageId else s)
            else (some isRequest, s.ackMessage m.messageId)

/-- `_decryptAndStore`; without a result, where the failure itself cannot be stored. -/
def decryptAndStore (m : MessengerMailboxMessage) (a : Attempt) (s : Messenger) :
    Option DecryptStoreResult × Messenger :=
  let stored :=
    match a.opened with
    | none => (none, s)
    | some (text, sessionState) => s.storeOpened m a text sessionState
  match stored with
  | (some isRequest, s) => (some ⟨true, isRequest⟩, s)
  | (none, s) =>
    if a.failureSaved then (some ⟨false, false⟩, s.saveMessage (failedRow m a)) else (none, s)

/-- The loop of a pull; it ends without a result where an attempt does, and with the attempts. -/
def pullMessages : List MessengerMailboxMessage → List Attempt → Messenger →
    Option MessengerPullResult × Messenger
  | [], _, s => (some ⟨0, 0⟩, s)
  | _ :: _, [], s => (none, s)
  | m :: messages, a :: attempts, s =>
    match s.decryptAndStore m a with
    | (none, s) => (none, s)
    | (some result, s) =>
      let (pulled, s) := pullMessages messages attempts s
      (pulled.map fun p => ⟨p.receivedMessages + result.received.toNat,
        p.messageRequests + result.messageRequest.toNat⟩, s)

def saveMailboxCursor (nextCursor : Option String) (s : Messenger) : Messenger :=
  match nextCursor with
  | some cursor => if cursor = "" then s else { s with cursor := some cursor }
  | none => s

def pullAndDecrypt (attempts : List Attempt) (nextCursor : Option String) (s : Messenger) :
    Option MessengerPullResult × Messenger :=
  match pullMessages s.mailbox attempts s with
  | (none, s) => (none, s)
  | (some pulled, s) => (some pulled, s.saveMailboxCursor nextCursor)

/-- The row of a message that the app sends. -/
def outboundRow (x : OutgoingMessage) (status : MessageStatus) (column : String) :
    MessengerMessageRecord where
  messageId := x.messageId
  conversationId := x.recipientDid
  direction := .outbound
  status := status
  plaintext := some column
  ciphertextType := x.ciphertextType
  ciphertext := x.ciphertext
  createdAt := x.createdAt
  updatedAt := x.createdAt

/-- `sendText`, once the text is encrypted -/
def sendText (x : OutgoingMessage) (s : Messenger) : Messenger :=
  let (column, secrets) := secureSecret (messageScope x.messageId) "plaintext" x.text s.secrets
  let s := { s with secrets }.saveMessage (outboundRow x .pending column)
  let (state, secrets) :=
    secureSecret (sessionScope s.deviceId x.remoteDeviceId) "state" x.sessionState s.secrets
  let s := { s with
    secrets, sessions := s.sessions.insert x.remoteDeviceId ⟨x.recipientDid, state, x.createdAt⟩ }
  if x.sent then s.saveMessage (outboundRow x .sent column) else s

/-! ### What is written -/

/-- What a column holds of a secret. -/
def columnOf (scope secretId value : String) : String :=
  if isSecretReference value then value else referencePrefix ++ scope ++ ":" ++ secretId

def secretWrites (scope secretId value : String) : List (String × String) :=
  if isSecretReference value then [] else [(scope ++ "." ++ secretId, value)]

/-- What is written of one message: its row, and the secure storage. -/
structure WriteSet where
  messageId : String
  row : Option MessengerMessageRecord
  secrets : List (String × String)

/-- The text has gone to the secure storage, and the row has been written. -/
def storedAs (m : MessengerMailboxMessage) (a : Attempt) : Option ReceivedMessage :=
  match a.opened with
  | none => none
  | some (text, _) =>
    if a.failsAt = some .secret ∨ a.failsAt = some .message then none
    else some ⟨m.messageId, m.senderDid, text⟩

/-- The row that says so is not written over. -/
def staysReceived (a : Attempt) : Bool := a.failsAt.isNone || !a.failureSaved

/-- The relay does not offer the message again. -/
def takesAway (a : Attempt) : Bool :=
  a.opened.isSome &&
    (a.failsAt.isNone || a.failsAt == some .acknowledgement && a.acknowledged)

def finalRow (m : MessengerMailboxMessage) (a : Attempt) : Option MessengerMessageRecord :=
  match storedAs m a with
  | some y =>
    if staysReceived a then
      some (receivedRow m a (columnOf (messageScope m.messageId) "plaintext" y.text))
    else some (failedRow m a)
  | none => if a.failureSaved then some (failedRow m a) else none

def attemptSecrets (deviceId : String) (m : MessengerMailboxMessage) (a : Attempt) :
    List (String × String) :=
  match a.opened with
  | none => []
  | some (text, sessionState) =>
    (if a.failsAt.isNone ∨ a.failsAt = some .session ∨ a.failsAt = some .acknowledgement then
      secretWrites (sessionScope deviceId m.senderDeviceId) "state" sessionState
    else []) ++
    if a.failsAt = some .secret then []
    else secretWrites (messageScope m.messageId) "plaintext" text

def attemptWrites (deviceId : String) (m : MessengerMailboxMessage) (a : Attempt) : WriteSet :=
  ⟨m.messageId, finalRow m a, attemptSecrets deviceId m a⟩

def sendWrites (deviceId : String) (x : OutgoingMessage) : WriteSet where
  messageId := x.messageId
  row := some (outboundRow x (if x.sent then .sent else .pending)
    (columnOf (messageScope x.messageId) "plaintext" x.text))
  secrets := secretWrites (sessionScope deviceId x.remoteDeviceId) "state" x.sessionState ++
    secretWrites (messageScope x.messageId) "plaintext" x.text

/-- The tables after the writes. -/
structure Writes (w : WriteSet) (s t : Messenger) : Prop where
  messages : ∀ id, t.messages.lookup id =
    if id = w.messageId then w.row.or (s.messages.lookup id) else s.messages.lookup id
  secrets : ∀ key, t.secrets.lookup key = (w.secrets.lookup key).or (s.secrets.lookup key)

@[simp] theorem secureSecret_fst (scope secretId value : String) (secrets : Assoc String String) :
    (secureSecret scope secretId value secrets).1 = columnOf scope secretId value := by
  unfold secureSecret columnOf
  split <;> rfl

theorem lookup_secureSecret (scope secretId value : String) (secrets : Assoc String String)
    (key : String) : (secureSecret scope secretId value secrets).2.lookup key =
      ((secretWrites scope secretId value).lookup key).or (secrets.lookup key) := by
  unfold secureSecret secretWrites
  split
  · rfl
  · dsimp only
    rw [Assoc.lookup_insert', List.lookup_cons, beq_eq_decide]
    by_cases hkey : key = scope ++ "." ++ secretId
    · simp [hkey]
    · simp [hkey]

variable (senderDid deviceId : String) (s : Messenger)

theorem recordMessageRequestIfNeeded_frame :
    ∃ contacts, (s.recordMessageRequestIfNeeded senderDid).2 = { s with contacts } := by
  unfold recordMessageRequestIfNeeded
  dsimp only
  split
  · exact ⟨_, rfl⟩
  split
  · exact ⟨_, rfl⟩
  · exact ⟨s.contacts, rfl⟩

@[simp] theorem deviceId_recordMessageRequest :
    (s.recordMessageRequestIfNeeded senderDid).2.deviceId = s.deviceId := by
  obtain ⟨contacts, h⟩ := recordMessageRequestIfNeeded_frame senderDid s
  rw [h]

@[simp] theorem messages_recordMessageRequest :
    (s.recordMessageRequestIfNeeded senderDid).2.messages = s.messages := by
  obtain ⟨contacts, h⟩ := recordMessageRequestIfNeeded_frame senderDid s
  rw [h]

@[simp] theorem secrets_recordMessageRequest :
    (s.recordMessageRequestIfNeeded senderDid).2.secrets = s.secrets := by
  obtain ⟨contacts, h⟩ := recordMessageRequestIfNeeded_frame senderDid s
  rw [h]

@[simp] theorem received_recordMessageRequest :
    (s.recordMessageRequestIfNeeded senderDid).2.received = s.received := by
  obtain ⟨contacts, h⟩ := recordMessageRequestIfNeeded_frame senderDid s
  rw [h]

@[simp] theorem mailbox_recordMessageRequest :
    (s.recordMessageRequestIfNeeded senderDid).2.mailbox = s.mailbox := by
  obtain ⟨contacts, h⟩ := recordMessageRequestIfNeeded_frame senderDid s
  rw [h]

/-- **What an attempt does.** -/
theorem decryptAndStore_spec (m : MessengerMailboxMessage) (a : Attempt) (s : Messenger) :
    Writes (attemptWrites s.deviceId m a) s (s.decryptAndStore m a).2 ∧
      (s.decryptAndStore m a).2.deviceId = s.deviceId ∧
      (s.decryptAndStore m a).2.received = s.received ++ (storedAs m a).toList ∧
      (s.decryptAndStore m a).2.mailbox = if takesAway a = true
        then s.mailbox.filter (·.messageId ≠ m.messageId) else s.mailbox := by
  obtain ⟨now, opened, failsAt, acknowledged, failureSaved⟩ := a
  cases opened with
  | none =>
    cases failureSaved <;> refine ⟨⟨fun id => ?_, fun key => ?_⟩, ?_, ?_, ?_⟩ <;>
      simp [decryptAndStore, attemptWrites, attemptSecrets, finalRow, storedAs, takesAway,
        saveMessage, failedRow, Assoc.lookup_insert']
  | some opened =>
    obtain ⟨text, sessionState⟩ := opened
    cases failsAt with
    | none =>
      refine ⟨⟨fun id => ?_, fun key => ?_⟩, ?_, ?_, ?_⟩ <;>
        simp [decryptAndStore, storeOpened, attemptWrites, attemptSecrets, finalRow, storedAs,
          staysReceived, takesAway, saveMessage, saveSession, ackMessage, receivedRow,
          lookup_secureSecret, List.lookup_append, Option.or_assoc, Assoc.lookup_insert']
    | some stage =>
      cases stage <;> cases failureSaved <;> cases acknowledged <;>
        refine ⟨⟨fun id => ?_, fun key => ?_⟩, ?_, ?_, ?_⟩ <;>
          simp [decryptAndStore, storeOpened, attemptWrites, attemptSecrets, finalRow, storedAs,
            staysReceived, takesAway, saveMessage, saveSession, ackMessage, receivedRow, failedRow,
            lookup_secureSecret, List.lookup_append, Option.or_assoc, Assoc.lookup_insert']

/-- What a sending does. -/
theorem sendText_spec (x : OutgoingMessage) (s : Messenger) :
    Writes (sendWrites s.deviceId x) s (s.sendText x) ∧ (s.sendText x).deviceId = s.deviceId ∧
      (s.sendText x).received = s.received ∧ (s.sendText x).mailbox = s.mailbox := by
  cases hsent : x.sent <;> refine ⟨⟨fun id => ?_, fun key => ?_⟩, ?_, ?_, ?_⟩ <;>
    simp [sendText, sendWrites, outboundRow, saveMessage, hsent, lookup_secureSecret,
      List.lookup_append, Option.or_assoc, Assoc.lookup_insert']

/-! ### Texts -/

/-- The rows are found under the ids they name, and no secret looks like a reference. -/
structure WellFormed (s : Messenger) : Prop where
  keyed : ∀ id r, s.messages.lookup id = some r → r.messageId = id
  plain : ∀ key value, s.secrets.lookup key = some value → isSecretReference value = false

theorem wellFormed_empty : (empty deviceId).WellFormed where
  keyed := by
    intro id r h
    cases h
  plain := by
    intro key value h
    cases h

/-- A write set of one message, without references for secrets. -/
structure WriteSet.WellFormed (w : WriteSet) : Prop where
  keyed : ∀ r ∈ w.row, r.messageId = w.messageId
  plain : ∀ x ∈ w.secrets, isSecretReference x.2 = false

theorem WellFormed.writes {w : WriteSet} {s t : Messenger} (hs : s.WellFormed)
    (hwell : w.WellFormed) (hw : Writes w s t) : t.WellFormed where
  keyed := by
    intro id r h
    rw [hw.messages] at h
    split at h
    · rename_i hid
      rcases Option.or_eq_some_iff.1 h with h | ⟨-, h⟩
      · exact (hwell.keyed r h).trans hid.symm
      · exact hs.keyed id r h
    · exact hs.keyed id r h
  plain := by
    intro key value h
    rw [hw.secrets] at h
    rcases Option.or_eq_some_iff.1 h with h | ⟨-, h⟩
    · obtain ⟨before, after, hsplit, -⟩ := List.lookup_eq_some_iff.1 h
      refine hwell.plain (key, value) ?_
      rw [hsplit]
      exact List.mem_append_right _ List.mem_cons_self
    · exact hs.plain key value h

theorem plain_secretWrites {scope secretId value : String} :
    ∀ x ∈ secretWrites scope secretId value, isSecretReference x.2 = false := by
  intro x hx
  unfold secretWrites at hx
  split at hx
  · cases hx
  · rename_i h
    rw [List.mem_singleton.1 hx]
    exact Bool.eq_false_iff.2 h

theorem wellFormed_attemptWrites (m : MessengerMailboxMessage) (a : Attempt) :
    (attemptWrites deviceId m a).WellFormed where
  keyed := by
    intro r hr
    dsimp only [attemptWrites, finalRow] at hr ⊢
    split at hr
    · split at hr
      · rw [← Option.some.inj hr]
        rfl
      · rw [← Option.some.inj hr]
        rfl
    · split at hr
      · rw [← Option.some.inj hr]
        rfl
      · cases hr
  plain := by
    intro x hx
    dsimp only [attemptWrites, attemptSecrets] at hx
    split at hx
    · cases hx
    · rcases List.mem_append.1 hx with hx | hx
      · split at hx
        · exact plain_secretWrites x hx
        · cases hx
      · split at hx
        · cases hx
        · exact plain_secretWrites x hx

theorem wellFormed_sendWrites (x : OutgoingMessage) :
    (sendWrites deviceId x).WellFormed where
  keyed := by
    intro r hr
    rw [← Option.some.inj hr]
    rfl
  plain := by
    intro y hy
    rcases List.mem_append.1 hy with hy | hy
    · exact plain_secretWrites y hy
    · exact plain_secretWrites y hy

/-- A reference leads to its secret. -/
theorem shownKey_reference {scope secretId : String} (hscope : scope ≠ "")
    (hid : secretId ≠ "") (hcolon : ':' ∉ secretId.toList) :
    hasPrefix referencePrefix (referencePrefix ++ scope ++ ":" ++ secretId) = true ∧
      shownKey (referencePrefix ++ scope ++ ":" ++ secretId) =
        some (scope ++ "." ++ secretId) := by
  have hchars : chars (referencePrefix ++ scope ++ ":" ++ secretId) =
      chars referencePrefix ++ (chars scope ++ ':' :: chars secretId) := by
    simp [chars_eq_toList]
  have hpre : hasPrefix referencePrefix (referencePrefix ++ scope ++ ":" ++ secretId) = true := by
    rw [hasPrefix, hchars, List.isPrefixOf_iff_prefix]
    exact List.prefix_append _ _
  refine ⟨hpre, ?_⟩
  rw [shownKey, if_pos hpre, hchars, List.drop_left]
  have hall : ∀ c ∈ (chars secretId).reverse, (c != ':') = true := by
    intro c hc
    rw [bne_iff_ne]
    rintro rfl
    exact hcolon (chars_eq_toList secretId ▸ List.mem_reverse.1 hc)
  have hrev : (chars scope ++ ':' :: chars secretId).reverse =
      (chars secretId).reverse ++ ':' :: (chars scope).reverse := by
    simp
  -- read from the end: the secret has no colon, so the last one is the border
  have htake : (chars scope ++ ':' :: chars secretId).reverse.takeWhile (· != ':') =
      (chars secretId).reverse := by
    rw [hrev, List.takeWhile_append_of_pos hall, List.takeWhile_cons_of_neg (by decide),
      List.append_nil]
  have hdrop : (chars scope ++ ':' :: chars secretId).reverse.dropWhile (· != ':') =
      ':' :: (chars scope).reverse := by
    rw [hrev, List.dropWhile_append_of_pos hall, List.dropWhile_cons_of_neg (by decide)]
  unfold storageKey
  dsimp only
  rw [htake, hdrop, List.reverse_reverse]
  have hne : chars secretId ≠ [] := by
    intro h
    exact hid (String.toList_eq_nil_iff.1 (chars_eq_toList secretId ▸ h))
  have hlen : ¬ (':' :: (chars scope).reverse).length ≤ 1 := by
    intro h
    rw [List.length_cons, List.length_reverse] at h
    have hnil : chars scope = [] := List.eq_nil_of_length_eq_zero (by omega)
    exact hscope (String.toList_eq_nil_iff.1 (chars_eq_toList scope ▸ hnil))
  rw [if_neg (not_or.2 ⟨hne, hlen⟩), List.tail_cons, List.reverse_reverse]
  congr 1
  rw [← String.toList_inj]
  simp [chars_eq_toList]

end Messenger

end Ansible
