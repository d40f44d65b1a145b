import Ansible.Lib.Run
import Ansible.Relay.MessengerStore
import Mathlib.Data.List.Induction

/-!
# Mailboxes

Messages are sent to a device of a recipient, fetched by it, and acknowledged.  Nothing is
deleted: a fetch leaves out what its device has acknowledged.

## Main definitions

* `MailboxOp`, `mailboxStep` — the requests, by any device in any order.
* `MailboxLaw` — what holds after a run, and of the next requests.

## Main results

* `mailbox_law` — **a message is fetched by its recipient alone, and until it acknowledges it.**
-/

namespace Ansible

open MessengerStore

/-! ### Runs -/

inductive MailboxOp
  | send (now : Time) (attrs : Json)
  | fetch (recipientDid recipientDeviceId : String)
  | ack (now : Time) (messageId recipientDid recipientDeviceId : String)

def mailboxStep (s : MessengerStore) : MailboxOp → MessengerStore
  | .send now attrs => (storeMessage now attrs s).2
  | .fetch _ _ => s
  | .ack now messageId did deviceId => (ack now messageId did deviceId s).2

/-- The store after the requests. -/
def served (ops : List MailboxOp) : MessengerStore := exec mailboxStep .empty ops

def messagesAfter (ops : List MailboxOp) : List Message := (served ops).messages.rows

/-- The request is the acknowledgement of the message by its recipient. -/
def AckOf (op : MailboxOp) (m : Message) : Prop :=
  ∃ now, op = .ack now m.messageId m.recipientDid m.recipientDeviceId

/-- The recipient has acknowledged the message after it was stored. -/
def Acknowledged (ops : List MailboxOp) (m : Message) : Prop :=
  ∃ pre op post, ops = pre ++ op :: post ∧ AckOf op m ∧ m ∈ messagesAfter pre

/-! ### The law -/

/-- The message is what the request asks for. -/
structure SentAs (attrs : Json) (m : Message) : Prop where
  messageId : fetchString attrs "message_id" = .ok m.messageId
  recipientDid : fetchString attrs "recipient_did" = .ok m.recipientDid
  recipientDeviceId : fetchString attrs "recipient_device_id" = .ok m.recipientDeviceId
  ciphertext : fetchString attrs "ciphertext" = .ok m.ciphertext

structure MailboxLaw (ops : List MailboxOp) : Prop where
  /-- A message that is accepted is stored, once and behind the others, -/
  accepted : ∀ now attrs m, (storeMessage now attrs (served ops)).1 = .ok m →
    SentAs attrs m ∧ messagesAfter (ops ++ [.send now attrs]) = messagesAfter ops ++ [m]
  /-- and one that is refused is not. -/
  refused : ∀ now attrs e, (storeMessage now attrs (served ops)).1 = .error e →
    served (ops ++ [.send now attrs]) = served ops
  /-- A message that is stored stays, -/
  stays : ∀ more, messagesAfter ops ⊆ messagesAfter (ops ++ more)
  /-- is fetched by its recipient until it is acknowledged, -/
  fetched : ∀ m ∈ messagesAfter ops, ∀ did deviceId, m ∈ mailbox did deviceId (served ops) ↔
    did = m.recipientDid ∧ deviceId = m.recipientDeviceId ∧ ¬ Acknowledged ops m
  /-- and once in each fetch, with nothing else. -/
  stored : ∀ did deviceId, mailbox did deviceId (served ops) ⊆ messagesAfter ops
  once : ∀ did deviceId, ((mailbox did deviceId (served ops)).map (·.messageId)).Nodup
  /-- A message that is sent again changes nothing. -/
  resend : ∀ now attrs, ∀ m ∈ messagesAfter ops,
    fetchString attrs "message_id" = .ok m.messageId →
      served (ops ++ [.send now attrs]) = served ops
  /-- Nor does one that is acknowledged again. -/
  reack : ∀ now now' messageId did deviceId,
    served (ops ++ [.ack now messageId did deviceId, .ack now' messageId did deviceId]) =
      served (ops ++ [.ack now messageId did deviceId]) ∧
    (ack now' messageId did deviceId (served (ops ++ [.ack now messageId did deviceId]))).1 =
      (ack now messageId did deviceId (served ops)).1

/-! ### Requests -/

variable {s : MessengerStore} {m : Message} {ops : List MailboxOp}

theorem messageOf_eq_ok {now : Time} {attrs : Json} (h : messageOf now attrs s = .ok m) :
    SentAs attrs m ∧ findMessage m.messageId s = none := by
  simp only [messageOf, bind_eq_ok] at h
  obtain ⟨_, -, messageId, hid, _, -, _, -, did, hdid, deviceId, hdevice, _, -, _, hbody, _, -, _,
    hnone, _, -, _, -, h⟩ := h
  cases h
  exact ⟨⟨hid, hdid, hdevice, hbody⟩, Option.isNone_iff_eq_none.1 (ensure_eq_ok.1 hnone)⟩

theorem findMessage_eq_none {messageId : String} :
    findMessage messageId s = none ↔ ∀ m ∈ s.messages.rows, m.messageId ≠ messageId := by
  rw [findMessage, Table.find_eq_none]
  simp only [beq_eq_false_iff_ne]

theorem findMessage_eq_some {messageId : String} :
    findMessage messageId s = some m ↔ m ∈ s.messages.rows ∧ m.messageId = messageId := by
  rw [findMessage, Table.find_eq_some_iff, beq_iff_eq]
  intro a ha b hb hka hkb
  exact s.messages.valid.eq ha hb rfl rfl ((beq_iff_eq.1 hka).trans (beq_iff_eq.1 hkb).symm)

/-- A message is refused, or appended under an identifier that is new. -/
theorem storeMessage_cases (now : Time) (attrs : Json) (s : MessengerStore) :
    (∃ e, storeMessage now attrs s = (.error e, s)) ∨ ∃ m messages, storeMessage now attrs s =
      (.ok m, { s with messages }) ∧ messages.rows = s.messages.rows ++ [m] ∧ SentAs attrs m ∧
      ∀ x ∈ s.messages.rows, x.messageId ≠ m.messageId := by
  rw [storeMessage]
  cases hm : messageOf now attrs s with
  | error e => exact .inl ⟨e, rfl⟩
  | ok m =>
    dsimp only
    cases ht : s.messages.insert m with
    | none => exact .inl ⟨_, rfl⟩
    | some messages =>
      obtain ⟨hsent, hnone⟩ := messageOf_eq_ok hm
      exact .inr ⟨m, messages, rfl, Table.rows_of_commit ht, hsent, findMessage_eq_none.1 hnone⟩

theorem insertAck_cases (a : Ack) (t : AckTable) :
    (insertAck a t = t ∧ ∃ b ∈ t.rows, b.key = a.key) ∨
      ((∀ b ∈ t.rows, b.key ≠ a.key) ∧ (insertAck a t).rows = t.rows ++ [a]) := by
  unfold insertAck
  by_cases hany : ∃ b ∈ t.rows, b.key = a.key
  · left
    refine ⟨?_, hany⟩
    cases h : t.insert a with
    | none => rfl
    | some t' =>
      -- the index would be broken
      obtain ⟨b, hb, hkey⟩ := hany
      have hrows := Table.rows_of_commit h
      have hnodup := t'.valid
      rw [hrows, UniqueOn, List.filter_true, List.map_append, List.nodup_append] at hnodup
      exact absurd hkey (hnodup.2.2 _ (List.mem_map_of_mem hb) _ (List.mem_singleton.2 rfl))
  · right
    have hfree : ∀ b ∈ t.rows, b.key ≠ a.key := fun b hb hkey => hany ⟨b, hb, hkey⟩
    refine ⟨hfree, ?_⟩
    have hsome : (t.insert a).isSome = true :=
      Table.commit_isSome.2 (t.valid.append_new hfree)
    obtain ⟨t', ht'⟩ := Option.isSome_iff_exists.1 hsome
    rw [ht', Option.getD_some]
    exact Table.rows_of_commit ht'

/-- An acknowledgement is refused, or that of the recipient. -/
theorem ack_cases (now : Time) (messageId did deviceId : String) (s : MessengerStore) :
    ((∃ e, ack now messageId did deviceId s = (.error e, s)) ∧ ∀ m ∈ s.messages.rows,
        m.messageId = messageId → m.recipientDid = did → m.recipientDeviceId ≠ deviceId) ∨
      ∃ m ∈ s.messages.rows, m.messageId = messageId ∧ m.recipientDid = did ∧
        m.recipientDeviceId = deviceId ∧ ack now messageId did deviceId s =
          (.ok m, { s with acks := insertAck ⟨messageId, deviceId, now⟩ s.acks }) := by
  unfold MessengerStore.ack
  cases h : findMessage messageId s with
  | none => exact .inl ⟨⟨_, rfl⟩, fun m hm hid => absurd hid (findMessage_eq_none.1 h m hm)⟩
  | some m =>
    dsimp only
    obtain ⟨hm, hid⟩ := findMessage_eq_some.1 h
    split
    · next hrecipient => exact .inr ⟨m, hm, hid, hrecipient.1, hrecipient.2, rfl⟩
    · next hother =>
      refine .inl ⟨⟨_, rfl⟩, fun x hx hxid hdid hdevice => hother ?_⟩
      obtain rfl := s.messages.valid.eq hx hm rfl rfl (hxid.trans hid.symm)
      exact ⟨hdid, hdevice⟩

theorem storeMessage_duplicate {now : Time} {attrs : Json} (hm : m ∈ s.messages.rows)
    (hid : fetchString attrs "message_id" = .ok m.messageId) :
    (storeMessage now attrs s).2 = s := by
  rcases storeMessage_cases now attrs s with ⟨e, h⟩ | ⟨m', messages, -, -, hsent, hnew⟩
  · rw [h]
  · exact absurd (Except.ok.inj (hid.symm.trans hsent.messageId)) (hnew m hm)

theorem insertAck_again {a b : Ack} (hkey : a.key = b.key) (t : AckTable) :
    insertAck b (insertAck a t) = insertAck a t := by
  have hmem : ∃ x ∈ (insertAck a t).rows, x.key = b.key := by
    rcases insertAck_cases a t with ⟨h, x, hx, hxa⟩ | ⟨-, hrows⟩
    · rw [h]
      exact ⟨x, hx, hxa.trans hkey⟩
    · exact ⟨a, hrows ▸ List.mem_append_right _ (List.mem_singleton.2 rfl), hkey⟩
  rcases insertAck_cases b (insertAck a t) with ⟨h, -⟩ | ⟨hfree, -⟩
  · exact h
  · obtain ⟨x, hx, hxb⟩ := hmem
    exact absurd hxb (hfree x hx)

theorem ack_again (now now' : Time) (messageId did deviceId : String) (s : MessengerStore) :
    ack now' messageId did deviceId (ack now messageId did deviceId s).2 =
      ((ack now messageId did deviceId s).1, (ack now messageId did deviceId s).2) := by
  unfold MessengerStore.ack
  cases h : findMessage messageId s with
  | none => simp only [h]
  | some m =>
    by_cases hrecipient : m.recipientDid = did ∧ m.recipientDeviceId = deviceId
    · have hfind : ∀ acks, findMessage messageId { s with acks } = some m := fun _ => h
      have hacks := @insertAck_again ⟨messageId, deviceId, now⟩ ⟨messageId, deviceId, now'⟩ rfl
        s.acks
      simp only [if_pos hrecipient, hfind, hacks]
    · simp only [if_neg hrecipient, h]

/-! ### What the acknowledgements say -/

theorem served_append (ops : List MailboxOp) (op : MailboxOp) :
    served (ops ++ [op]) = mailboxStep (served ops) op := exec_append _ _ ops [op]

theorem messages_mailboxStep (s : MessengerStore) (op : MailboxOp) :
    s.messages.rows ⊆ (mailboxStep s op).messages.rows := by
  cases op with
  | send now attrs =>
    rcases storeMessage_cases now attrs s with ⟨e, h⟩ | ⟨m, messages, h, hrows, -⟩
    · rw [mailboxStep, h]
      exact fun _ hx => hx
    · rw [mailboxStep, h]
      exact fun x hx => hrows ▸ List.mem_append_left _ hx
  | fetch did deviceId => exact fun _ hx => hx
  | ack now messageId did deviceId =>
    rw [mailboxStep]
    rcases ack_cases now messageId did deviceId s with ⟨⟨e, h⟩, -⟩ | ⟨m, -, -, -, -, h⟩
    · rw [h]
      exact fun _ hx => hx
    · rw [h]
      exact fun _ hx => hx

theorem messagesAfter_append (ops more : List MailboxOp) :
    messagesAfter ops ⊆ messagesAfter (ops ++ more) := by
  rw [messagesAfter, messagesAfter, served, served, exec_append]
  generalize exec mailboxStep .empty ops = s
  exact exec_invariant (I := fun t : MessengerStore => s.messages.rows ⊆ t.messages.rows)
    (fun t op h => List.Subset.trans h (messages_mailboxStep t op)) (fun _ hx => hx) more

theorem acknowledged_append {op : MailboxOp} :
    Acknowledged (ops ++ [op]) m ↔ Acknowledged ops m ∨ AckOf op m ∧ m ∈ messagesAfter ops := by
  constructor
  · rintro ⟨pre, op', post, heq, hack, hm⟩
    rcases List.eq_nil_or_concat post with rfl | ⟨post, last, rfl⟩
    · obtain ⟨rfl, hop⟩ := List.append_inj' heq rfl
      obtain rfl := List.singleton_inj.1 hop
      exact .inr ⟨hack, hm⟩
    · rw [List.concat_eq_append, ← List.cons_append, ← List.append_assoc] at heq
      obtain ⟨rfl, -⟩ := List.append_inj' heq rfl
      exact .inl ⟨pre, op', post, rfl, hack, hm⟩
  · rintro (⟨pre, op', post, rfl, hack, hm⟩ | ⟨hack, hm⟩)
    · exact ⟨pre, op', post ++ [op], by rw [List.append_assoc, List.cons_append], hack, hm⟩
    · exact ⟨ops, op, [], rfl, hack, hm⟩

theorem Acknowledged.stored (h : Acknowledged ops m) : m ∈ messagesAfter ops := by
  obtain ⟨pre, op, post, rfl, -, hm⟩ := h
  exact messagesAfter_append pre (op :: post) hm

/-- The message has been acknowledged by its device. -/
def HasAck (s : MessengerStore) (m : Message) : Prop :=
  ∃ a ∈ s.acks.rows, a.messageId = m.messageId ∧ a.recipientDeviceId = m.recipientDeviceId

/-- The acknowledgements that are kept are those that were made. -/
structure AcksSound (ops : List MailboxOp) : Prop where
  messages : ∀ a ∈ (served ops).acks.rows, ∃ m ∈ messagesAfter ops, m.messageId = a.messageId
  acknowledged : ∀ m ∈ messagesAfter ops, HasAck (served ops) m ↔ Acknowledged ops m

/-- A request that leaves messages and acknowledgements alone. -/
theorem AcksSound.same (h : AcksSound ops) {op : MailboxOp}
    (hmessages : (mailboxStep (served ops) op).messages = (served ops).messages)
    (hacks : (mailboxStep (served ops) op).acks = (served ops).acks)
    (hnot : ∀ m ∈ messagesAfter ops, AckOf op m → HasAck (served ops) m) :
    AcksSound (ops ++ [op]) := by
  have hafter : messagesAfter (ops ++ [op]) = messagesAfter ops := by
    rw [messagesAfter, served_append, hmessages]
    rfl
  refine ⟨?_, ?_⟩
  · rw [hafter, served_append, hacks]
    exact h.messages
  · intro m hm
    rw [hafter] at hm
    have hiff := h.acknowledged m hm
    rw [acknowledged_append, HasAck, served_append, hacks]
    constructor
    · exact fun hack => .inl (hiff.1 hack)
    · rintro (hack | ⟨hack, -⟩)
      · exact hiff.2 hack
      · exact hnot m hm hack

theorem AcksSound.send (h : AcksSound ops) (now : Time) (attrs : Json) :
    AcksSound (ops ++ [.send now attrs]) := by
  rcases storeMessage_cases now attrs (served ops) with
    ⟨e, hs⟩ | ⟨m, messages, hs, hrows, -, hnew⟩
  · exact h.same (by rw [mailboxStep, hs]) (by rw [mailboxStep, hs]) fun _ _ ⟨_, hop⟩
      => by cases hop
  have hserved : served (ops ++ [.send now attrs]) = { served ops with messages } := by
    rw [served_append, mailboxStep, hs]
  have hafter : messagesAfter (ops ++ [.send now attrs]) = messagesAfter ops ++ [m] := by
    rw [messagesAfter, hserved]
    exact hrows
  have hack : ∀ x, Acknowledged (ops ++ [.send now attrs]) x ↔ Acknowledged ops x := by
    intro x
    rw [acknowledged_append]
    refine ⟨fun hx => hx.resolve_right fun ⟨⟨_, hop⟩, _⟩ => ?_, .inl⟩
    cases hop
  refine ⟨?_, ?_⟩
  · intro a ha
    rw [hserved] at ha
    obtain ⟨x, hx, hid⟩ := h.messages a ha
    exact ⟨x, hafter ▸ List.mem_append_left _ hx, hid⟩
  · intro x hx
    rw [hack, hserved]
    rcases List.mem_append.1 (hafter ▸ hx) with hx | hx
    · exact h.acknowledged x hx
    · -- nothing was known of the new message
      obtain rfl := List.mem_singleton.1 hx
      constructor
      · rintro ⟨a, ha, hid, -⟩
        obtain ⟨y, hy, hyid⟩ := h.messages a ha
        exact absurd (hyid.trans hid) (hnew y hy)
      · exact fun hx => absurd rfl (hnew x hx.stored)

theorem AcksSound.ack (h : AcksSound ops) (now : Time) (messageId did deviceId : String) :
    AcksSound (ops ++ [.ack now messageId did deviceId]) := by
  rcases ack_cases now messageId did deviceId (served ops) with
    ⟨⟨e, hs⟩, hnone⟩ | ⟨m, hm, rfl, rfl, rfl, hs⟩
  · refine h.same (by rw [mailboxStep, hs]) (by rw [mailboxStep, hs]) fun m hm ⟨_, hop⟩ => ?_
    cases hop
    exact absurd rfl (hnone m hm rfl rfl)
  set a : Ack := ⟨m.messageId, m.recipientDeviceId, now⟩ with ha
  have hserved : served (ops ++ [.ack now m.messageId m.recipientDid m.recipientDeviceId]) =
      { served ops with acks := insertAck a (served ops).acks } := by
    rw [served_append, mailboxStep, hs]
  have hafter : messagesAfter (ops ++ [.ack now m.messageId m.recipientDid m.recipientDeviceId]) =
      messagesAfter ops := by
    rw [messagesAfter, hserved]
    rfl
  have hunique : ∀ x ∈ messagesAfter ops, x.messageId = m.messageId → x = m := fun x hx hid =>
    (served ops).messages.valid.eq hx hm rfl rfl hid
  -- `ON CONFLICT DO NOTHING`: the row is added, or one with its key is there
  have hrows : ∀ b, b ∈ (insertAck a (served ops).acks).rows →
      b ∈ (served ops).acks.rows ∨ b = a := by
    intro b hb
    rcases insertAck_cases a (served ops).acks with ⟨hsame, -⟩ | ⟨-, happend⟩
    · exact .inl (hsame ▸ hb)
    · rw [happend, List.mem_append, List.mem_singleton] at hb
      exact hb
  have hkept : ∀ b ∈ (served ops).acks.rows, b ∈ (insertAck a (served ops).acks).rows := by
    intro b hb
    rcases insertAck_cases a (served ops).acks with ⟨hsame, -⟩ | ⟨-, happend⟩
    · rw [hsame]
      exact hb
    · rw [happend]
      exact List.mem_append_left _ hb
  have hack : ∃ b ∈ (insertAck a (served ops).acks).rows, b.key = a.key := by
    rcases insertAck_cases a (served ops).acks with ⟨hsame, b, hb, hkey⟩ | ⟨-, happend⟩
    · rw [hsame]
      exact ⟨b, hb, hkey⟩
    · rw [happend]
      exact ⟨a, List.mem_append_right _ (List.mem_singleton.2 rfl), rfl⟩
  -- acknowledgements name messages that are stored, and are exactly those that were asked for
  refine ⟨?_, ?_⟩
  · intro b hb
    rw [hafter]
    rw [hserved] at hb
    rcases hrows b hb with hb | rfl
    · exact h.messages b hb
    · exact ⟨m, hm, rfl⟩
  · intro x hx
    rw [hafter] at hx
    rw [acknowledged_append, hserved]
    constructor
    · rintro ⟨b, hb, hid, hdevice⟩
      rcases hrows b hb with hb | rfl
      · exact .inl ((h.acknowledged x hx).1 ⟨b, hb, hid, hdevice⟩)
      · obtain rfl := hunique x hx hid.symm
        exact .inr ⟨⟨now, rfl⟩, hx⟩
    · rintro (hx' | ⟨⟨_, hop⟩, -⟩)
      · obtain ⟨b, hb, hrest⟩ := (h.acknowledged x hx).2 hx'
        exact ⟨b, hkept b hb, hrest⟩
      · injection hop with _ hid _ hdevice
        obtain ⟨b, hb, hkey⟩ := hack
        obtain ⟨hbid, hbdevice⟩ := Prod.mk.inj hkey
        exact ⟨b, hb, hbid.trans hid, hbdevice.trans hdevice⟩

/-- **What one request preserves.** -/
theorem AcksSound.step (h : AcksSound ops) (op : MailboxOp) : AcksSound (ops ++ [op]) := by
  cases op with
  | send now attrs => exact h.send now attrs
  | fetch did deviceId => exact h.same rfl rfl fun _ _ ⟨_, hop⟩ => by cases hop
  | ack now messageId did deviceId => exact h.ack now messageId did deviceId

theorem acksSound (ops : List MailboxOp) : AcksSound ops := by
  induction ops using List.reverseRecOn with
  | nil =>
    refine ⟨fun a ha => ?_, fun m hm => ?_⟩
    · cases ha
    · cases hm
  | append_singleton ops op ih => exact ih.step op

/-! ### The law holds -/

theorem mem_mailbox {did deviceId : String} :
    m ∈ mailbox did deviceId s ↔ m ∈ s.messages.rows ∧ did = m.recipientDid ∧
      deviceId = m.recipientDeviceId ∧ ¬ HasAck s m := by
  rw [mailbox, List.mem_filter, List.mem_insertionSort, List.mem_filter, Bool.and_eq_true,
    beq_iff_eq, beq_iff_eq, Bool.not_eq_true', ackedMessageIds]
  have hack : deviceId = m.recipientDeviceId →
      (((s.acks.rows.filter fun a => a.recipientDeviceId == deviceId).map
        (·.messageId)).contains m.messageId = true ↔ HasAck s m) := by
    rintro rfl
    rw [List.contains_iff_mem, List.mem_map]
    constructor
    · rintro ⟨a, ha, hid⟩
      obtain ⟨ha, hdevice⟩ := List.mem_filter.1 ha
      exact ⟨a, ha, hid, beq_iff_eq.1 hdevice⟩
    · rintro ⟨a, ha, hid, hdevice⟩
      exact ⟨a, List.mem_filter.2 ⟨ha, beq_iff_eq.2 hdevice⟩, hid⟩
  rw [← Bool.not_eq_true]
  constructor
  · rintro ⟨⟨hm, hdid, hdevice⟩, hnot⟩
    exact ⟨hm, hdid.symm, hdevice.symm, fun h => hnot ((hack hdevice.symm).2 h)⟩
  · rintro ⟨hm, hdid, hdevice, hnot⟩
    exact ⟨⟨hm, hdid.symm, hdevice.symm⟩, fun h => hnot ((hack hdevice).1 h)⟩

theorem mailbox_ids_nodup (did deviceId : String) (s : MessengerStore) :
    ((mailbox did deviceId s).map (·.messageId)).Nodup := by
  have hrows : (s.messages.rows.map (·.messageId)).Nodup := by
    have hvalid := s.messages.valid
    rwa [UniqueOn, List.filter_true] at hvalid
  have hfiltered : ((s.messages.rows.filter fun m => m.recipientDid == did &&
      m.recipientDeviceId == deviceId).map (·.messageId)).Nodup :=
    hrows.sublist (List.filter_sublist.map _)
  have hsorted := ((List.perm_insertionSort (fun a b : Message => a.before b) _).map
    (·.messageId)).nodup_iff.2 hfiltered
  exact hsorted.sublist (List.filter_sublist.map _)

/-- **A message is fetched by its recipient alone, and until it acknowledges it; what is sent or
acknowledged again changes nothing.** -/
theorem mailbox_law (ops : List MailboxOp) : MailboxLaw ops where
  accepted := by
    intro now attrs m hok
    rcases storeMessage_cases now attrs (served ops) with
      ⟨e, hs⟩ | ⟨x, messages, hs, hrows, hsent, -⟩
    · rw [hs] at hok
      cases hok
    · rw [hs] at hok
      cases hok
      rw [messagesAfter, served_append, mailboxStep, hs]
      exact ⟨hsent, hrows⟩
  refused := by
    intro now attrs e herror
    rw [served_append, mailboxStep]
    rcases storeMessage_cases now attrs (served ops) with ⟨e, hs⟩ | ⟨x, messages, hs, -⟩
    · rw [hs]
    · rw [hs] at herror
      cases herror
  stays := fun more => messagesAfter_append ops more
  fetched := by
    intro m hm did deviceId
    rw [mem_mailbox, (acksSound ops).acknowledged m hm]
    exact ⟨fun h => h.2, fun h => ⟨hm, h⟩⟩
  stored := fun did deviceId m hm => (mem_mailbox.1 hm).1
  once := fun did deviceId => mailbox_ids_nodup did deviceId (served ops)
  resend := by
    intro now attrs m hm hid
    rw [served_append]
    exact storeMessage_duplicate hm hid
  reack := by
    intro now now' messageId did deviceId
    have hagain := ack_again now now' messageId did deviceId (served ops)
    have happend : ∀ a b : MailboxOp, ops ++ [a, b] = ops ++ [a] ++ [b] := fun a b => by
      rw [List.append_assoc, List.singleton_append]
    rw [happend, served_append, served_append]
    exact ⟨congrArg Prod.snd hagain, congrArg Prod.fst hagain⟩

def toyMessage : Json :=
  .obj (["message_id", "sender_did", "sender_device_id", "recipient_did", "recipient_device_id",
    "ciphertext_type", "ciphertext", "protocol_version"].map fun key => (key, .str key))

/-- A message is sent twice and fetched, another device acknowledges it, then its own does. -/
def toyMailbox : List MailboxOp :=
  [.send 0 toyMessage, .send 1 toyMessage, .fetch "recipient_did" "recipient_device_id",
    .ack 2 "message_id" "recipient_did" "tablet",
    .ack 3 "message_id" "recipient_did" "recipient_device_id"]

theorem mailbox_law_toy : (∀ n, MailboxLaw (toyMailbox.take n)) ∧
    (List.range 6).map (fun n => (mailbox "recipient_did" "recipient_device_id"
      (served (toyMailbox.take n))).map (·.insertedAt)) = [[], [0], [0], [0], [0], []] :=
  ⟨fun n => mailbox_law (toyMailbox.take n), by decide +kernel⟩

end Ansible
