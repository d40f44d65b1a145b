import Ansible.Client.MessengerSync

/-!
# Received messages stay received

The steps are those of the attempts, so that a pull is a run; what the relay offers, and the
messages that the app sends itself, come in between.

## Main definitions

* `MessengerEvent`, `Messenger.step` — the steps.

## Main results

* `received_messages_stay` — **when received messages stay received.**
* `Messenger.pullAndDecrypt_eq_exec` — a pull is a run, and keeps what single steps keep.
-/

namespace Ansible

/-- What happens to the messages of the app. -/
inductive MessengerEvent
  /-- The relay takes a message for the device. -/
  | offer (m : MessengerMailboxMessage)
  | process (m : MessengerMailboxMessage) (a : Attempt)
  | send (x : OutgoingMessage)
  | cursor (nextCursor : Option String)

namespace Messenger

def step (s : Messenger) : MessengerEvent → Messenger
  | .offer m =>
    if s.mailbox.any (·.messageId == m.messageId) then s else { s with mailbox := s.mailbox ++ [m] }
  | .process m a => (s.decryptAndStore m a).2
  | .send x => s.sendText x
  | .cursor nextCursor => s.saveMailboxCursor nextCursor

/-! ### The law -/

/-- The message is there as it was received. -/
def StandsAs (s : Messenger) (x : ReceivedMessage) : Prop :=
  ∃ r ∈ s.messages.lookup x.messageId, r.direction = .inbound ∧ r.status = .received ∧
    r.conversationId = x.senderDid ∧ s.textOf r = some x.text

/-- **Every message that was ever stored as received stands as it was received.** -/
def Kept (s : Messenger) : Prop := ∀ x ∈ s.received, s.StandsAs x

/-- A message of the app, or of another conversation. -/
def Foreign (m : MessengerMailboxMessage) (r : MessengerMessageRecord) : Prop :=
  r.direction = .outbound ∨ r.conversationId ≠ m.senderDid

/-- An attempt leaves foreign messages alone, and what it has opened and not processed is still
offered. -/
def KeepsOthers (s : Messenger) : MessengerEvent → Prop
  | .process m a =>
    (∀ r ∈ s.messages.values, Foreign m r →
      (s.step (.process m a)).messages.lookup r.messageId = some r ∧
      (s.step (.process m a)).textOf r = s.textOf r) ∧
    (a.opened.isSome → a.failsAt.isSome → m ∈ s.mailbox →
      m ∈ (s.step (.process m a)).mailbox)
  | _ => True

/-! ### When it holds -/

/-- The secret that a row refers to. -/
def shown (r : MessengerMessageRecord) : Option String := r.plaintext.bind shownKey

/-- Neither the row is written nor, with another text, its secret. -/
def Undisturbed (w : WriteSet) (s : Messenger) (r : MessengerMessageRecord) : Prop :=
  (r.messageId = w.messageId → w.row = none) ∧
    ∀ key ∈ shown r, ∀ value ∈ w.secrets.lookup key, s.secrets.lookup key = some value

/-- The message is received again, with what it was received with before. -/
def ReceivedAgain (m : MessengerMailboxMessage) (a : Attempt) (x : ReceivedMessage) : Prop :=
  staysReceived a = true ∧ storedAs m a = some x

/-- An attempt at a message does no harm. -/
structure CarefulAttempt (s : Messenger) (m : MessengerMailboxMessage) (a : Attempt) : Prop where
  /-- Its id is of no foreign message. -/
  foreign : ∀ r ∈ s.messages.values, Foreign m r → Undisturbed (attemptWrites s.deviceId m a) s r
  /-- The reply to an acknowledgement is not lost. -/
  answered : ¬ (a.opened.isSome ∧ a.failsAt = some .acknowledgement ∧ a.acknowledged = true ∧
    m ∈ s.mailbox)
  /-- Received messages are left alone, or received again. -/
  again : ∀ x ∈ s.received, ReceivedAgain m a x ∨
    ∀ r ∈ s.messages.lookup x.messageId, Undisturbed (attemptWrites s.deviceId m a) s r
  /-- Nothing fails after the message was stored, and its text is no reference. -/
  stored : ∀ y ∈ storedAs m a, staysReceived a = true ∧ hasPrefix referencePrefix y.text = false

/-- The steps that do no harm. -/
def Careful (s : Messenger) : MessengerEvent → Prop
  | .process m a => CarefulAttempt s m a
  | .send x => ∀ y ∈ s.received, ∀ r ∈ s.messages.lookup y.messageId,
    Undisturbed (sendWrites s.deviceId x) s r
  | _ => True

/-! ### What the writes change -/

section

variable {w : WriteSet} {s t : Messenger} {r : MessengerMessageRecord}

theorem textOf_eq_iff (hw : Writes w s t) : t.textOf r = s.textOf r ↔
    ∀ key ∈ shown r, ∀ value ∈ w.secrets.lookup key, s.secrets.lookup key = some value := by
  cases hcolumn : r.plaintext with
  | none => simp [textOf, shown, hcolumn]
  | some column =>
    simp only [textOf, shown, hcolumn, Option.bind_some]
    by_cases hpre : hasPrefix referencePrefix column = true
    · rw [resolveSecret, resolveSecret, if_pos hpre, if_pos hpre]
      cases hkey : shownKey column with
      | none => simp
      | some key =>
        rw [Option.bind_some, Option.bind_some, hw.secrets]
        cases hvalue : w.secrets.lookup key with
        | none => simp [hvalue]
        | some value => simp [hvalue, eq_comm]
    · rw [resolveSecret, resolveSecret, if_neg hpre, if_neg hpre, shownKey, if_neg hpre]
      simp

/-- **What leaves a row and its text alone.** -/
theorem undisturbed_iff (hw : Writes w s t) (hr : s.messages.lookup r.messageId = some r)
    (hne : r.messageId = w.messageId → w.row ≠ some r) :
    Undisturbed w s r ↔
      t.messages.lookup r.messageId = some r ∧ t.textOf r = s.textOf r := by
  rw [Undisturbed, textOf_eq_iff hw, hw.messages]
  refine and_congr_left fun _ => ?_
  constructor
  · intro hnone
    split
    · rename_i hid
      rw [hnone hid, Option.none_or]
      exact hr
    · exact hr
  · intro hkept hid
    rw [if_pos hid] at hkept
    cases hrow : w.row with
    | none => rfl
    | some row =>
      rw [hrow, Option.some_or] at hkept
      exact absurd (hrow.trans hkept) (hne hid)

end

/-! ### What an attempt leaves -/

section

variable {s t : Messenger} {m : MessengerMailboxMessage} {a : Attempt}

theorem lookup_attempt (hw : Writes (attemptWrites s.deviceId m a) s t) :
    t.messages.lookup m.messageId = (finalRow m a).or (s.messages.lookup m.messageId) :=
  (hw.messages m.messageId).trans (if_pos rfl)

theorem storedAs_eq_some {y : ReceivedMessage} (h : storedAs m a = some y) :
    y.messageId = m.messageId ∧ y.senderDid = m.senderDid ∧
      ∃ sessionState, a.opened = some (y.text, sessionState) ∧ a.failsAt ≠ some .secret := by
  unfold storedAs at h
  split at h
  · cases h
  · rename_i text sessionState hopened
    split at h
    · cases h
    · rename_i hstage
      cases h
      exact ⟨rfl, rfl, sessionState, hopened, fun h => hstage (.inl h)⟩

theorem finalRow_of_storedAs {y : ReceivedMessage} (h : storedAs m a = some y)
    (hstays : staysReceived a = true) : finalRow m a =
      some (receivedRow m a (columnOf (messageScope m.messageId) "plaintext" y.text)) := by
  rw [finalRow, h]
  exact if_pos hstays

theorem status_finalRow {row : MessengerMessageRecord} (h : finalRow m a = some row)
    (hstatus : row.status = .received) : ∃ y, ReceivedAgain m a y := by
  unfold finalRow at h
  split at h
  · rename_i y hy
    split at h
    · rename_i hstays
      exact ⟨y, hstays, hy⟩
    · rw [← Option.some.inj h] at hstatus
      cases hstatus
  · split at h
    · rw [← Option.some.inj h] at hstatus
      cases hstatus
    · cases h

theorem not_foreign_finalRow {row : MessengerMessageRecord} (h : finalRow m a = some row) :
    ¬ Foreign m row := by
  unfold finalRow at h
  have hrow : row.direction = .inbound ∧ row.conversationId = m.senderDid := by
    split at h
    · split at h
      · rw [← Option.some.inj h]
        exact ⟨rfl, rfl⟩
      · rw [← Option.some.inj h]
        exact ⟨rfl, rfl⟩
    · split at h
      · rw [← Option.some.inj h]
        exact ⟨rfl, rfl⟩
      · cases h
  rintro (hdirection | hsender)
  · rw [hrow.1] at hdirection
    cases hdirection
  · exact hsender hrow.2

theorem messageScope_ne (messageId : String) : messageScope messageId ≠ "" := by
  intro h
  have := congrArg String.length h
  simp [messageScope] at this

theorem sessionScope_ne_messageScope (deviceId remoteDeviceId messageId : String)
    (secretId secretId' : String) : sessionScope deviceId remoteDeviceId ++ "." ++ secretId ≠
      messageScope messageId ++ "." ++ secretId' := by
  intro h
  have h := congrArg (fun x : String => x.toList.head?) h
  simp [sessionScope, messageScope] at h

/-- The text of a message that was just received is the one it was opened with, unless that looks
like a reference to a secret. -/
theorem textOf_received_iff (ht : t.WellFormed) (hw : Writes (attemptWrites s.deviceId m a) s t)
    {y : ReceivedMessage} (hy : storedAs m a = some y) :
    t.textOf (receivedRow m a (columnOf (messageScope m.messageId) "plaintext" y.text)) =
      some y.text ↔ hasPrefix referencePrefix y.text = false := by
  obtain ⟨-, -, sessionState, hopened, hstage⟩ := storedAs_eq_some hy
  show resolveSecret (columnOf (messageScope m.messageId) "plaintext" y.text) t.secrets =
    some y.text ↔ _
  by_cases hreference : isSecretReference y.text = true
  · rw [columnOf, if_pos hreference]
    cases hpre : hasPrefix referencePrefix y.text with
    | false =>
      rw [resolveSecret, if_neg (Bool.eq_false_iff.1 hpre)]
      exact iff_of_true rfl rfl
    | true =>
      -- A secret is found, and secrets do not look like references.
      rw [resolveSecret, if_pos hpre]
      refine iff_of_false ?_ Bool.noConfusion
      intro h
      obtain ⟨key, -, hkey⟩ := Option.bind_eq_some_iff.1 h
      rw [ht.plain key y.text hkey] at hreference
      cases hreference
  · obtain ⟨hpre, hkey⟩ := shownKey_reference (messageScope_ne m.messageId)
      (show "plaintext" ≠ "" by decide) (by decide)
    rw [columnOf, if_neg hreference, resolveSecret, if_pos hpre, hkey, Option.bind_some,
      hw.secrets]
    have hplain : hasPrefix referencePrefix y.text = false := by
      rw [isSecretReference, Bool.not_eq_true, Bool.or_eq_false_iff] at hreference
      exact hreference.1
    refine iff_of_true ?_ hplain
    have hmessage : secretWrites (messageScope m.messageId) "plaintext" y.text =
        [(messageScope m.messageId ++ "." ++ "plaintext", y.text)] := if_neg hreference
    have hsession : (if a.failsAt.isNone ∨ a.failsAt = some .session ∨
        a.failsAt = some .acknowledgement then
          secretWrites (sessionScope s.deviceId m.senderDeviceId) "state" sessionState
        else []).lookup (messageScope m.messageId ++ "." ++ "plaintext") = none := by
      rw [List.lookup_eq_none_iff]
      intro x hx
      split at hx
      · unfold secretWrites at hx
        split at hx
        · cases hx
        · rw [List.mem_singleton.1 hx]
          exact bne_iff_ne.2 (sessionScope_ne_messageScope _ _ _ _ _).symm
      · cases hx
    simp only [attemptWrites, attemptSecrets, hopened]
    rw [List.lookup_append, hsession, Option.none_or, if_neg hstage, hmessage,
      List.lookup_cons_self, Option.some_or]

end

/-! ### The law of a step -/

theorem WellFormed.step {s : Messenger} (hs : s.WellFormed) (e : MessengerEvent) :
    (s.step e).WellFormed := by
  cases e with
  | offer m =>
    dsimp only [Messenger.step]
    split
    · exact hs
    · exact ⟨hs.keyed, hs.plain⟩
  | process m a =>
    exact hs.writes (wellFormed_attemptWrites s.deviceId m a) (decryptAndStore_spec m a s).1
  | send x => exact hs.writes (wellFormed_sendWrites s.deviceId x) (sendText_spec x s).1
  | cursor nextCursor =>
    cases nextCursor with
    | none => exact hs
    | some cursor =>
      dsimp only [Messenger.step, saveMailboxCursor]
      split
      · exact hs
      · exact ⟨hs.keyed, hs.plain⟩

theorem WellFormed.lookup_values {s : Messenger} (hs : s.WellFormed) {r : MessengerMessageRecord}
    (hr : r ∈ s.messages.values) : s.messages.lookup r.messageId = some r := by
  obtain ⟨id, h⟩ := Assoc.mem_values.1 hr
  rw [hs.keyed id r h]
  exact h

/-- What is still offered after an attempt. -/
theorem mem_mailbox_process (s : Messenger) (m : MessengerMailboxMessage) (a : Attempt) :
    (a.opened.isSome → a.failsAt.isSome → m ∈ s.mailbox →
      m ∈ (s.step (.process m a)).mailbox) ↔
    ¬ (a.opened.isSome ∧ a.failsAt = some .acknowledgement ∧ a.acknowledged = true ∧
      m ∈ s.mailbox) := by
  have hmailbox : (s.step (.process m a)).mailbox = _ := (decryptAndStore_spec m a s).2.2.2
  rw [hmailbox]
  constructor
  · rintro hoffered ⟨hopened, hstage, hacknowledged, hm⟩
    have htakes : takesAway a = true := by simp [takesAway, hopened, hstage, hacknowledged]
    have hmem := hoffered hopened (by rw [hstage]; rfl) hm
    rw [if_pos htakes] at hmem
    exact of_decide_eq_true (List.mem_filter.1 hmem).2 rfl
  · intro hanswered hopened hfails hm
    have htakes : ¬ takesAway a = true := by
      intro htakes
      simp only [takesAway, Bool.and_eq_true, Bool.or_eq_true, beq_iff_eq,
        Option.isNone_iff_eq_none] at htakes
      rcases htakes with ⟨-, hnone | ⟨hstage, hacknowledged⟩⟩
      · rw [hnone] at hfails
        cases hfails
      · exact hanswered ⟨hopened, hstage, hacknowledged, hm⟩
    rw [if_neg htakes]
    exact hm

/-- The part of care that is about the messages of others. -/
def MindsOthers (s : Messenger) : MessengerEvent → Prop
  | .process m a =>
    (∀ r ∈ s.messages.values, Foreign m r → Undisturbed (attemptWrites s.deviceId m a) s r) ∧
    ¬ (a.opened.isSome ∧ a.failsAt = some .acknowledgement ∧ a.acknowledged = true ∧
      m ∈ s.mailbox)
  | _ => True

theorem keepsOthers_iff {s : Messenger} (hs : s.WellFormed) (e : MessengerEvent) :
    s.KeepsOthers e ↔ s.MindsOthers e := by
  cases e with
  | process m a =>
    refine and_congr (forall₂_congr fun r hr => forall_congr' fun hforeign => ?_)
      (mem_mailbox_process s m a)
    refine (undisturbed_iff (decryptAndStore_spec m a s).1 (hs.lookup_values hr) ?_).symm
    intro _ hrow
    exact not_foreign_finalRow hrow hforeign
  | offer m => exact Iff.rfl
  | send x => exact Iff.rfl
  | cursor nextCursor => exact Iff.rfl

/-- The part of care that is about the messages that were received. -/
def MindsReceived (s : Messenger) : MessengerEvent → Prop
  | .process m a =>
    (∀ x ∈ s.received, ReceivedAgain m a x ∨
      ∀ r ∈ s.messages.lookup x.messageId, Undisturbed (attemptWrites s.deviceId m a) s r) ∧
    ∀ y ∈ storedAs m a, staysReceived a = true ∧ hasPrefix referencePrefix y.text = false
  | .send x => ∀ y ∈ s.received, ∀ r ∈ s.messages.lookup y.messageId,
    Undisturbed (sendWrites s.deviceId x) s r
  | _ => True

/-- A received message whose row and secret are left alone stands, and only such a message does. -/
theorem standsAs_iff_undisturbed {w : WriteSet} {s t : Messenger} (hs : s.WellFormed)
    (hw : Writes w s t) {x : ReceivedMessage} (hx : s.StandsAs x)
    (hrow : x.messageId = w.messageId → ∀ row ∈ w.row, row.status ≠ .received) :
    t.StandsAs x ↔ ∀ r ∈ s.messages.lookup x.messageId, Undisturbed w s r := by
  obtain ⟨r, hr, hdirection, hstatus, hsender, htext⟩ := hx
  have hid : r.messageId = x.messageId := hs.keyed _ _ hr
  have hlookup : s.messages.lookup r.messageId = some r := hid.symm ▸ hr
  have hundisturbed := undisturbed_iff hw hlookup fun hsame hwritten =>
    hrow (hid.symm.trans hsame) r hwritten hstatus
  have hall : (∀ r ∈ s.messages.lookup x.messageId, Undisturbed w s r) ↔ Undisturbed w s r := by
    rw [hr]
    exact ⟨fun h => h r rfl, fun h r' hr' => Option.some.inj hr' ▸ h⟩
  rw [hall, hundisturbed, hid]
  constructor
  · rintro ⟨r', hr', -, hstatus', -, htext'⟩
    have hsame : r' = r := by
      have h := hw.messages x.messageId
      rw [hr'] at h
      split at h
      · rename_i hxid
        rcases Option.or_eq_some_iff.1 h.symm with hwritten | ⟨-, hold⟩
        · exact absurd hstatus' (hrow hxid r' hwritten)
        · exact Option.some.inj (hold.symm.trans hr)
      · exact Option.some.inj (h.trans hr)
    subst hsame
    exact ⟨hr', htext'.trans htext.symm⟩
  · rintro ⟨hr', htext'⟩
    exact ⟨r, hr', hdirection, hstatus, hsender, htext'.trans htext⟩

/-- What is received stands, unless its text looks like a reference. -/
theorem standsAs_receivedAgain {s t : Messenger} {m : MessengerMailboxMessage} {a : Attempt}
    (ht : t.WellFormed) (hw : Writes (attemptWrites s.deviceId m a) s t) {y : ReceivedMessage}
    (hy : ReceivedAgain m a y) :
    t.StandsAs y ↔ hasPrefix referencePrefix y.text = false := by
  obtain ⟨hid, hsender, -⟩ := storedAs_eq_some hy.2
  have hrow : t.messages.lookup y.messageId = some (receivedRow m a
      (columnOf (messageScope m.messageId) "plaintext" y.text)) := by
    rw [hid, lookup_attempt hw, finalRow_of_storedAs hy.2 hy.1, Option.some_or]
  rw [← textOf_received_iff ht hw hy.2]
  constructor
  · rintro ⟨r, hr, -, -, -, htext⟩
    rw [hrow] at hr
    rw [Option.some.inj hr]
    exact htext
  · intro htext
    exact ⟨_, hrow, rfl, rfl, hsender.symm, htext⟩

theorem staysReceived_of_standsAs {s t : Messenger} {m : MessengerMailboxMessage} {a : Attempt}
    (hw : Writes (attemptWrites s.deviceId m a) s t) {y : ReceivedMessage}
    (hy : storedAs m a = some y) (hstands : t.StandsAs y) : staysReceived a = true := by
  by_contra hstays
  obtain ⟨r, hr, -, hstatus, -, -⟩ := hstands
  obtain ⟨hid, -, -⟩ := storedAs_eq_some hy
  have hfailed : finalRow m a = some (failedRow m a) := by
    rw [finalRow, hy]
    exact if_neg hstays
  rw [hid, lookup_attempt hw, hfailed, Option.some_or] at hr
  rw [← Option.some.inj hr] at hstatus
  cases hstatus

/-- **What keeps the received messages.** -/
theorem kept_step_iff {s : Messenger} (hs : s.WellFormed) (hkept : s.Kept) (e : MessengerEvent) :
    (s.step e).Kept ↔ s.MindsReceived e := by
  have ht := hs.step e
  cases e with
  | offer m =>
    refine iff_of_true ?_ trivial
    dsimp only [Messenger.step]
    split
    · exact hkept
    · exact hkept
  | cursor nextCursor =>
    refine iff_of_true ?_ trivial
    cases nextCursor with
    | none => exact hkept
    | some cursor =>
      dsimp only [Messenger.step, saveMailboxCursor]
      split
      · exact hkept
      · exact hkept
  | send x =>
    obtain ⟨hw, -, hreceived, -⟩ := sendText_spec x s
    show (∀ y ∈ (s.sendText x).received, (s.sendText x).StandsAs y) ↔ _
    rw [hreceived]
    refine forall₂_congr fun y hy => standsAs_iff_undisturbed hs hw (hkept y hy) ?_
    intro _ row hrow
    rw [← Option.some.inj hrow]
    cases x.sent <;> exact nofun
  | process m a =>
    obtain ⟨hw, -, hreceived, -⟩ := decryptAndStore_spec m a s
    show (∀ x ∈ (s.decryptAndStore m a).2.received, (s.decryptAndStore m a).2.StandsAs x) ↔ _
    rw [hreceived]
    change (s.decryptAndStore m a).2.WellFormed at ht
    generalize (s.decryptAndStore m a).2 = t at ht hw
    constructor
    · intro hall
      have hstored : ∀ y ∈ storedAs m a,
          staysReceived a = true ∧ hasPrefix referencePrefix y.text = false := by
        intro y hy
        have hstands := hall y (List.mem_append_right _ (Option.mem_toList.2 hy))
        have hstays := staysReceived_of_standsAs hw hy hstands
        exact ⟨hstays, (standsAs_receivedAgain ht hw ⟨hstays, hy⟩).1 hstands⟩
      refine ⟨fun x hx => or_iff_not_imp_left.2 fun hagain => ?_, hstored⟩
      have hstands := hall x (List.mem_append_left _ hx)
      refine (standsAs_iff_undisturbed hs hw (hkept x hx) ?_).1 hstands
      -- A row that says the message was received, says so of the message that is stored.
      intro hid row hrow hstatus
      obtain ⟨y, hy⟩ := status_finalRow hrow hstatus
      obtain ⟨hyid, hysender, -⟩ := storedAs_eq_some hy.2
      obtain ⟨r, hr, -, -, hsender, htext⟩ := hstands
      change x.messageId = m.messageId at hid
      rw [hid, lookup_attempt hw, finalRow_of_storedAs hy.2 hy.1, Option.some_or] at hr
      cases hr
      rw [(textOf_received_iff ht hw hy.2).2 (hstored y hy.2).2] at htext
      have hsame : y = x := ReceivedMessage.ext (hyid.trans hid.symm) (hysender.trans hsender)
        (Option.some.inj htext)
      exact hagain (hsame ▸ hy)
    · rintro ⟨hagain, hstored⟩ x hx
      have hnew : ∀ y, ReceivedAgain m a y → t.StandsAs y := fun y hy =>
        (standsAs_receivedAgain ht hw hy).2 (hstored y hy.2).2
      rcases List.mem_append.1 hx with hx | hx
      · rcases hagain x hx with hx' | hundisturbed
        · exact hnew x hx'
        · refine (standsAs_iff_undisturbed hs hw (hkept x hx) ?_).2 hundisturbed
          intro hid row hrow
          obtain ⟨r, hr, -⟩ := hkept x hx
          have hnone := (hundisturbed r hr).1 ((hs.keyed _ _ hr).trans hid)
          rw [hnone] at hrow
          cases hrow
      · have hx := Option.mem_toList.1 hx
        exact hnew x ⟨(hstored x hx).1, hx⟩

theorem careful_iff (s : Messenger) (e : MessengerEvent) :
    s.Careful e ↔ s.MindsOthers e ∧ s.MindsReceived e := by
  cases e with
  | process m a =>
    constructor
    · intro h
      exact ⟨⟨h.foreign, h.answered⟩, h.again, h.stored⟩
    · rintro ⟨⟨hforeign, hanswered⟩, hagain, hstored⟩
      exact ⟨hforeign, hanswered, hagain, hstored⟩
  | send x => exact ⟨fun h => ⟨trivial, h⟩, And.right⟩
  | offer m => exact ⟨fun h => ⟨trivial, h⟩, And.right⟩
  | cursor nextCursor => exact ⟨fun h => ⟨trivial, h⟩, And.right⟩

end Messenger

open Messenger in
/-- **When received messages stay received.**  In exactly those runs in which every step is careful,
each attempt leaves the messages of others alone and keeps what it could not process on offer, and
whatever was stored as received stands in every state. -/
theorem received_messages_stay (deviceId : String) (events : List MessengerEvent) :
    Along Messenger.step Careful (empty deviceId) events ↔
      (∀ before e after, events = before ++ e :: after →
        (exec Messenger.step (empty deviceId) before).KeepsOthers e) ∧
      ∀ before after, events = before ++ after →
        (exec Messenger.step (empty deviceId) before).Kept := by
  have hstep : ∀ s e, WellFormed s → WellFormed (s.step e) := fun s e hs => hs.step e
  have hempty := wellFormed_empty deviceId
  have hothers : Along Messenger.step MindsOthers (empty deviceId) events ↔
      ∀ before e after, events = before ++ e :: after →
        (exec Messenger.step (empty deviceId) before).KeepsOthers e := by
    rw [along_iff_split]
    refine forall₃_congr fun before e after => forall_congr' fun _ => ?_
    exact (keepsOthers_iff (exec_invariant hstep hempty before) e).symm
  have hreceived : Along Messenger.step MindsReceived (empty deviceId) events ↔
      ∀ before after, events = before ++ after →
        (exec Messenger.step (empty deviceId) before).Kept :=
    along_iff_kept hstep (fun s e hs hkept => kept_step_iff hs hkept e) hempty nofun
  rw [← hothers, ← hreceived, ← along_and]
  exact along_congr careful_iff

/-- A message that is opened and stored, and whose acknowledgement is taken, but not answered. -/
def toyMail : MessengerMailboxMessage := ⟨"m1", "did:a", "phone", "message", "YQ==", none⟩

def toyUnanswered : Attempt := ⟨0, some ("hi", "s1"), some .acknowledgement, true, true⟩

open Messenger in
/-- **A received message is lost** when the reply to its acknowledgement is: it is stored over as
one that could not be opened, and is not offered again. -/
theorem received_message_lost :
    ¬ (exec Messenger.step (empty "tablet") [.offer toyMail, .process toyMail toyUnanswered]).Kept ∧
      ¬ (exec Messenger.step (empty "tablet") [.offer toyMail]).KeepsOthers
        (.process toyMail toyUnanswered) := by
  constructor
  · intro hkept
    obtain ⟨r, hr, -, hstatus, -⟩ := hkept ⟨"m1", "did:a", "hi"⟩ (by decide +kernel)
    have hlookup : (exec Messenger.step (empty "tablet") [.offer toyMail, .process toyMail
        toyUnanswered]).messages.lookup "m1" = some (failedRow toyMail toyUnanswered) := by
      decide +kernel
    rw [hlookup] at hr
    rw [← Option.some.inj hr] at hstatus
    cases hstatus
  · intro hkeeps
    have hoffered := hkeeps.2 rfl rfl (by decide +kernel)
    revert hoffered
    decide +kernel

namespace Messenger

/-! ### Pulls -/

/-- The attempts at the messages, in their order. -/
def attemptsAt (messages : List MessengerMailboxMessage) (attempts : List Attempt) :
    List MessengerEvent := List.zipWith .process messages attempts

theorem mem_attemptsAt {messages : List MessengerMailboxMessage} {attempts : List Attempt}
    {e : MessengerEvent} (h : e ∈ attemptsAt messages attempts) :
    ∃ m ∈ messages, ∃ a ∈ attempts, e = .process m a := by
  rw [attemptsAt, List.mem_iff_getElem] at h
  obtain ⟨n, hn, rfl⟩ := h
  rw [List.length_zipWith, Nat.lt_min] at hn
  exact ⟨_, List.getElem_mem hn.1, _, List.getElem_mem hn.2, List.getElem_zipWith⟩

/-- The loop of a pull is a run of attempts at the messages, one after the other, and at all of
them if it comes to its end. -/
theorem pullMessages_eq_exec (messages : List MessengerMailboxMessage) (attempts : List Attempt)
    (s : Messenger) : ∃ events, events <+: attemptsAt messages attempts ∧
      (pullMessages messages attempts s).2 = exec step s events ∧
      ((pullMessages messages attempts s).1.isSome → events.length = messages.length) := by
  induction messages generalizing attempts s with
  | nil => exact ⟨[], List.nil_prefix, rfl, fun _ => rfl⟩
  | cons m messages ih =>
    cases attempts with
    | nil => exact ⟨[], List.nil_prefix, rfl, fun h => absurd h Bool.false_ne_true⟩
    | cons a attempts =>
      rw [pullMessages]
      cases hstored : s.decryptAndStore m a with
      | mk result t =>
        have ht : t = step s (.process m a) := (congrArg Prod.snd hstored).symm
        cases result with
        | none =>
          -- the failure was not stored, and the pull ends here
          exact ⟨[.process m a], List.cons_prefix_cons.2 ⟨rfl, List.nil_prefix⟩, ht,
            fun h => absurd h Bool.false_ne_true⟩
        | some result =>
          obtain ⟨events, hpref, hexec, hall⟩ := ih attempts t
          refine ⟨.process m a :: events, List.cons_prefix_cons.2 ⟨rfl, hpref⟩,
            hexec.trans (by rw [exec_cons, ht]), fun h => ?_⟩
          rw [Option.isSome_map] at h
          rw [List.length_cons, List.length_cons, hall h]

/-- What a pull does to the messages of the app. -/
structure PullLaw (attempts : List Attempt) (nextCursor : Option String) (s : Messenger) :
    Prop where
  /-- It is a run of attempts at the messages on offer, in their order.  The cursor moves last,
  and only when all of them have been attempted. -/
  run : ∃ events, events <+: attemptsAt s.mailbox attempts ∧
    ((s.pullAndDecrypt attempts nextCursor).2 = exec step s events ∨
      (events.length = s.mailbox.length ∧
        (s.pullAndDecrypt attempts nextCursor).2 = exec step s (events ++ [.cursor nextCursor])))
  /-- An invariant of these steps is one of the pull. -/
  invariant : ∀ I : Messenger → Prop, I s →
    (∀ t, I t → ∀ m ∈ s.mailbox, ∀ a ∈ attempts, I (step t (.process m a))) →
    (∀ t, I t → I (step t (.cursor nextCursor))) → I (s.pullAndDecrypt attempts nextCursor).2
  /-- A pull of careful attempts keeps what was received. -/
  kept : s.WellFormed → s.Kept → Along step Careful s (attemptsAt s.mailbox attempts) →
    (s.pullAndDecrypt attempts nextCursor).2.Kept

theorem exists_run_of_pull (attempts : List Attempt) (nextCursor : Option String) (s : Messenger) :
    ∃ events, events <+: attemptsAt s.mailbox attempts ∧
      ((s.pullAndDecrypt attempts nextCursor).2 = exec step s events ∨
        (events.length = s.mailbox.length ∧
          (s.pullAndDecrypt attempts nextCursor).2
            = exec step s (events ++ [.cursor nextCursor]))) := by
  obtain ⟨events, hpref, hexec, hall⟩ := pullMessages_eq_exec s.mailbox attempts s
  refine ⟨events, hpref, ?_⟩
  rw [pullAndDecrypt]
  generalize pullMessages s.mailbox attempts s = r at hexec hall
  obtain ⟨pulled, t⟩ := r
  cases pulled with
  | none => exact .inl hexec
  | some pulled =>
    refine .inr ⟨hall rfl, ?_⟩
    rw [exec_append, ← hexec]
    rfl

/-- **A pull is a run** of attempts at the messages that the relay offers, which the move of the
cursor can follow; so it keeps what single steps keep. -/
theorem pullAndDecrypt_eq_exec (attempts : List Attempt) (nextCursor : Option String)
    (s : Messenger) : PullLaw attempts nextCursor s := by
  have hrun := exists_run_of_pull attempts nextCursor s
  refine ⟨hrun, fun I hs hattempt hcursor => ?_, fun hs hkept hcareful => ?_⟩
  · obtain ⟨events, hpref, hend⟩ := hrun
    have hevents : I (exec step s events) := by
      refine List.foldlRecOn events step hs fun t ht e he => ?_
      obtain ⟨m, hm, a, ha, rfl⟩ := mem_attemptsAt (hpref.subset he)
      exact hattempt t ht m hm a ha
    rcases hend with hend | ⟨-, hend⟩
    · rw [hend]
      exact hevents
    · rw [hend, exec_append]
      exact hcursor _ hevents
  · obtain ⟨events, ⟨rest, hsplit⟩, hend⟩ := hrun
    rw [← hsplit] at hcareful
    have hevents : (exec step s events).WellFormed ∧ (exec step s events).Kept := by
      refine Along.invariant (I := fun t => t.WellFormed ∧ t.Kept) (fun t e ht he => ?_)
        (along_append.1 hcareful).1 ⟨hs, hkept⟩
      exact ⟨ht.1.step e, (kept_step_iff ht.1 ht.2 e).2 ((careful_iff t e).1 he).2⟩
    rcases hend with hend | ⟨-, hend⟩
    · rw [hend]
      exact hevents.2
    · rw [hend, exec_append]
      exact (kept_step_iff hevents.1 hevents.2 (.cursor nextCursor)).2 trivial

end Messenger

end Ansible
