import Ansible.Lib.Run
import Ansible.Lib.Slots
import Ansible.Relay.DeliveryQueue

/-!
# The order of deliveries

Passes over the delivery queue run between enqueues; a row that failed comes again after later
rows were delivered.

## Main definitions

* `DeliverySystem`, `deliveryStep` — the queue, the passes under way, and what inboxes accepted.
* `DeliveryLaw` — deliveries about one item in the order of the queue, and bounded attempts.

## Main results

* `delivery_law` — **in every run in turn the law holds and final statuses stay.**
-/

namespace Ansible

open DeliveryQueue

/-! ### The system -/

/-- The settings, and the content item that a publication is about. -/
structure DeliveryConfig where
  baseUrl : String
  maxAttempts : ℕ
  maxAttempts_pos : 0 < maxAttempts
  itemOf : String → String

/-- A pass: the rows as it has read them, without those that it has dealt with, and the reply to
the first one once it is posted. -/
structure DeliveryPass where
  now : Time
  batch : List DeliveryAttempt
  reply : Option ClientReply

structure DeliverySystem where
  queue : DeliveryQueue
  passes : List DeliveryPass
  /-- The rows that inboxes have accepted, in the order of acceptance. -/
  accepted : List DeliveryAttempt

def DeliverySystem.empty : DeliverySystem := ⟨.empty, [], []⟩

inductive DeliveryStep
  | enqueue (now : Time) (intent : PublicationIntent) (remoteInbox : String)
  /-- Acceptances of followers and deletions of accounts. -/
  | enqueueActivity (now : Time) (publicationId remoteInbox : String) (activity : Json)
  | startPass (now : Time) (limit : ℕ) (tie : ℕ → ℕ)
  | post (k : ℕ) (reply : ClientReply)
  | record (k : ℕ)
  /-- A pass fails. -/
  | stop (k : ℕ)

/-- The pass posts the first row of its batch. -/
def postStep (s : DeliverySystem) (k : ℕ) (reply : ClientReply) : DeliverySystem :=
  match s.passes[k]? with
  | none => s
  | some p =>
    match p.batch, p.reply with
    | a :: _, none =>
      { s with
        passes := s.passes.set k { p with reply := some reply }
        accepted := if isAccepted reply then s.accepted ++ [a] else s.accepted }
    | _, _ => s

/-- The pass writes down what came of the row. -/
def recordStep (C : DeliveryConfig) (s : DeliverySystem) (k : ℕ) : DeliverySystem :=
  match s.passes[k]? with
  | none => s
  | some p =>
    match p.batch, p.reply with
    | a :: rest, some reply =>
      { s with
        queue := updateAttempt a (updateOf C.maxAttempts p.now a reply) s.queue
        passes := s.passes.set k { p with batch := rest, reply := none } }
    | _, _ => s

def deliveryStep (C : DeliveryConfig) (s : DeliverySystem) : DeliveryStep → DeliverySystem
  | .enqueue now intent inbox => { s with queue := (enqueue now intent inbox C.baseUrl s.queue).2 }
  | .enqueueActivity now publicationId inbox activity =>
    { s with queue := (insertAttempt now publicationId inbox activity s.queue).2 }
  | .startPass now limit tie =>
    { s with passes := s.passes ++ [⟨now, picked now limit tie s.queue, none⟩] }
  | .post k reply => postStep s k reply
  | .record k => recordStep C s k
  | .stop k => { s with passes := s.passes.modify k fun p => { p with batch := [] } }

/-! ### The law -/

/-- The rows are for one inbox and about one item. -/
def SameObject (C : DeliveryConfig) (a b : DeliveryAttempt) : Prop :=
  a.remoteInbox = b.remoteInbox ∧ C.itemOf a.publicationId = C.itemOf b.publicationId

instance (C : DeliveryConfig) (a b : DeliveryAttempt) : Decidable (SameObject C a b) :=
  inferInstanceAs (Decidable (_ ∧ _))

structure DeliveryLaw (C : DeliveryConfig) (s : DeliverySystem) : Prop where
  /-- Rows about one item are accepted in the order of the queue. -/
  ordered : s.accepted.Pairwise fun a b => SameObject C a b → a.id ≤ b.id
  bounded : ∀ a ∈ s.queue.attempts.rows, a.attemptCount ≤ C.maxAttempts

/-- Final statuses are not left. -/
def Settles (s t : DeliverySystem) : Prop :=
  ∀ a ∈ s.queue.attempts.rows, a.status.isFinal = true →
    ∃ b ∈ t.queue.attempts.rows, b.id = a.id ∧ b.status = a.status

/-- A pass starts when no other is under way, and an inbox accepts a row when the earlier ones
about the same item for it are settled. -/
def InTurn (C : DeliveryConfig) (s : DeliverySystem) : DeliveryStep → Prop
  | .startPass _ _ _ => ∀ p ∈ s.passes, p.batch.isEmpty = true
  | .post k reply => isAccepted reply = true → ∀ p ∈ s.passes[k]?, ∀ a ∈ p.batch.head?,
    ∀ b ∈ s.queue.attempts.rows, b.id < a.id → SameObject C b a → b.status.isFinal = true
  | _ => True

instance (C : DeliveryConfig) (s : DeliverySystem) : ∀ a, Decidable (InTurn C s a)
  | .startPass _ _ _ => inferInstanceAs (Decidable (∀ p ∈ s.passes, p.batch.isEmpty = true))
  | .post k reply => inferInstanceAs (Decidable (isAccepted reply = true →
      ∀ p ∈ s.passes[k]?, ∀ a ∈ p.batch.head?, ∀ b ∈ s.queue.attempts.rows, b.id < a.id →
        SameObject C b a → b.status.isFinal = true))
  | .enqueue _ _ _ | .enqueueActivity _ _ _ _ | .record _ | .stop _ => instDecidableTrue

/-! ### What is known of a state -/

/-- The rows of a pass are those of the queue, and no other pass has rows. -/
structure PassesSound (s : DeliverySystem) : Prop where
  alone : ∀ (i j : ℕ) (p q : DeliveryPass), s.passes[i]? = some p → s.passes[j]? = some q →
    p.batch ≠ [] → q.batch ≠ [] → i = j
  current : ∀ p ∈ s.passes, ∀ a ∈ p.batch, a ∈ s.queue.attempts.rows ∧ a.status.isFinal = false
  distinct : ∀ p ∈ s.passes, (p.batch.map (·.id)).Nodup

structure QueueSound (C : DeliveryConfig) (q : DeliveryQueue) : Prop where
  nodup : (q.attempts.rows.map (·.id)).Nodup
  below : ∀ a ∈ q.attempts.rows, a.id < q.nextId
  bounded : ∀ a ∈ q.attempts.rows, a.attemptCount ≤ C.maxAttempts
  remaining : ∀ a ∈ q.attempts.rows, a.status.isFinal = false → a.attemptCount < C.maxAttempts

/-- What is accepted has no earlier row about the same item waiting behind it. -/
structure AcceptedSound (C : DeliveryConfig) (s : DeliverySystem) : Prop where
  below : ∀ a ∈ s.accepted, a.id < s.queue.nextId
  settled : ∀ a ∈ s.accepted, ∀ b ∈ s.queue.attempts.rows, b.id < a.id → SameObject C b a →
    b.status.isFinal = true
  ordered : s.accepted.Pairwise fun a b => SameObject C a b → a.id ≤ b.id

structure DeliverySound (C : DeliveryConfig) (s : DeliverySystem) : Prop where
  queue : QueueSound C s.queue
  passes : PassesSound s
  accepted : AcceptedSound C s

variable {C : DeliveryConfig} {s : DeliverySystem}

theorem QueueSound.eq {q : DeliveryQueue} (h : QueueSound C q) {a b : DeliveryAttempt}
    (ha : a ∈ q.attempts.rows) (hb : b ∈ q.attempts.rows) (hid : a.id = b.id) :
    a = b := List.inj_on_of_nodup_map h.nodup ha hb hid

theorem Settles.refl (s : DeliverySystem) : Settles s s := fun a ha _ => ⟨a, ha, rfl, rfl⟩

theorem Settles.trans {t u : DeliverySystem} (hst : Settles s t) (htu : Settles t u) :
    Settles s u := by
  intro a ha hfinal
  obtain ⟨b, hb, hid, hstatus⟩ := hst a ha hfinal
  obtain ⟨c, hc, hid', hstatus'⟩ := htu b hb (hstatus ▸ hfinal)
  exact ⟨c, hc, hid'.trans hid, hstatus'.trans hstatus⟩

/-! ### Enqueueing -/

/-- A row is added at the end. -/
theorem DeliverySound.append (h : DeliverySound C s) {q : DeliveryQueue} {a : DeliveryAttempt}
    (hrows : q.attempts.rows = s.queue.attempts.rows ++ [a]) (hnext : q.nextId = s.queue.nextId + 1)
    (hid : a.id = s.queue.nextId) (hcount : a.attemptCount = 0) :
    DeliverySound C { s with queue := q } ∧ Settles s { s with queue := q } := by
  have hold : ∀ b ∈ q.attempts.rows, b ∈ s.queue.attempts.rows ∨ b = a := by
    intro b hb
    rw [hrows, List.mem_append, List.mem_singleton] at hb
    exact hb
  have hkept : ∀ b ∈ s.queue.attempts.rows, b ∈ q.attempts.rows := fun b hb =>
    hrows ▸ List.mem_append_left _ hb
  refine ⟨⟨⟨?_, ?_, ?_, ?_⟩, ⟨h.passes.alone, ?_, h.passes.distinct⟩, ⟨?_, ?_, h.accepted.ordered⟩⟩,
    fun b hb _ => ⟨b, hkept b hb, rfl, rfl⟩⟩
  · rw [hrows, List.map_append, List.nodup_append]
    refine ⟨h.queue.nodup, List.nodup_singleton _, fun i hi j hj => ?_⟩
    obtain ⟨b, hb, rfl⟩ := List.mem_map.1 hi
    obtain rfl : j = a.id := List.mem_singleton.1 hj
    exact Nat.ne_of_lt (hid ▸ h.queue.below b hb)
  · intro b hb
    dsimp only
    rw [hnext]
    rcases hold b hb with hb | rfl
    · exact Nat.lt_succ_of_lt (h.queue.below b hb)
    · exact hid ▸ Nat.lt_succ_self _
  · intro b hb
    rcases hold b hb with hb | rfl
    · exact h.queue.bounded b hb
    · exact hcount ▸ Nat.zero_le _
  · intro b hb hopen
    rcases hold b hb with hb | rfl
    · exact h.queue.remaining b hb hopen
    · exact hcount ▸ C.maxAttempts_pos
  · intro p hp b hb
    obtain ⟨hrow, hopen⟩ := h.passes.current p hp b hb
    exact ⟨hkept b hrow, hopen⟩
  · intro b hb
    dsimp only
    rw [hnext]
    exact Nat.lt_succ_of_lt (h.accepted.below b hb)
  · intro b hb c hc hlt hsame
    rcases hold c hc with hc | rfl
    · exact h.accepted.settled b hb c hc hlt hsame
    · -- the new row is not earlier than what was accepted
      have hbelow := h.accepted.below b hb
      omega

theorem DeliverySound.insertAttempt (h : DeliverySound C s) (now : Time)
    (publicationId inbox : String) (activity : Json) :
    DeliverySound C
        { s with queue :=
          (DeliveryQueue.insertAttempt now publicationId inbox activity s.queue).2 } ∧
      Settles s
        { s with
          queue := (DeliveryQueue.insertAttempt now publicationId inbox activity s.queue).2 } := by
  rcases insertAttempt_cases now publicationId inbox activity s.queue with
    ⟨e, heq⟩ | ⟨a, attempts, heq, hrows, hid, -, hcount, -⟩
  · rw [heq]
    exact ⟨h, .refl s⟩
  · rw [heq]
    exact h.append hrows rfl hid hcount

/-! ### Passes -/

theorem DeliverySound.startPass (h : DeliverySound C s) (now : Time) (limit : ℕ) (tie : ℕ → ℕ)
    (hidle : ∀ p ∈ s.passes, p.batch.isEmpty = true) :
    DeliverySound C (deliveryStep C s (.startPass now limit tie)) := by
  have hempty : ∀ p ∈ s.passes, p.batch = [] := fun p hp => List.isEmpty_iff.1 (hidle p hp)
  refine ⟨h.queue, ⟨?_, ?_, ?_⟩, ⟨h.accepted.below, h.accepted.settled, h.accepted.ordered⟩⟩
  · intro i j p q hp hq hpb hqb
    rcases of_getElem?_append_singleton hp with hp | ⟨rfl, -⟩
    · exact absurd (hempty p (List.mem_of_getElem? hp)) hpb
    rcases of_getElem?_append_singleton hq with hq | ⟨rfl, -⟩
    · exact absurd (hempty q (List.mem_of_getElem? hq)) hqb
    · rfl
  · intro p hp a ha
    rcases List.mem_append.1 hp with hp | hp
    · exact h.passes.current p hp a ha
    · obtain rfl := List.mem_singleton.1 hp
      exact mem_picked ha
  · intro p hp
    rcases List.mem_append.1 hp with hp | hp
    · exact h.passes.distinct p hp
    · obtain rfl := List.mem_singleton.1 hp
      exact picked_ids_nodup now limit tie h.queue.nodup

/-- A pass is left with some of its rows, or none. -/
theorem PassesSound.set (h : PassesSound s) {k : ℕ} {p p' : DeliveryPass}
    (hp : s.passes[k]? = some p) (hsub : p'.batch.Sublist p.batch) :
    (∀ (i j : ℕ) (x y : DeliveryPass), (s.passes.set k p')[i]? = some x →
      (s.passes.set k p')[j]? = some y → x.batch ≠ [] → y.batch ≠ [] → i = j) ∧
    (∀ x ∈ s.passes.set k p', (x.batch.map (·.id)).Nodup) := by
  have hmem := List.mem_of_getElem? hp
  have hne : p'.batch ≠ [] → p.batch ≠ [] := by
    intro h' hnil
    rw [hnil] at hsub
    exact h' (List.sublist_nil.1 hsub)
  constructor
  · intro i j x y hx hy hxb hyb
    rcases of_getElem?_set hx with ⟨rfl, rfl⟩ | ⟨-, hx₀⟩
    · rcases of_getElem?_set hy with ⟨rfl, -⟩ | ⟨-, hy₀⟩
      · rfl
      · exact h.alone i j p y hp hy₀ (hne hxb) hyb
    · rcases of_getElem?_set hy with ⟨rfl, rfl⟩ | ⟨-, hy₀⟩
      · exact h.alone i j x p hx₀ hp hxb (hne hyb)
      · exact h.alone i j x y hx₀ hy₀ hxb hyb
  · intro x hx
    rcases of_mem_set hx with rfl | hx
    · exact (h.distinct p hmem).sublist (hsub.map _)
    · exact h.distinct x hx

/-- A pass changes without a change of the queue. -/
theorem DeliverySound.set (h : DeliverySound C s) {k : ℕ} {p p' : DeliveryPass}
    (hp : s.passes[k]? = some p) (hsub : p'.batch.Sublist p.batch) {accepted : List DeliveryAttempt}
    (haccepted : AcceptedSound C ⟨s.queue, s.passes.set k p', accepted⟩) :
    DeliverySound C ⟨s.queue, s.passes.set k p', accepted⟩ ∧
      Settles s ⟨s.queue, s.passes.set k p', accepted⟩ := by
  obtain ⟨halone, hdistinct⟩ := h.passes.set hp hsub
  refine ⟨⟨h.queue, ⟨halone, ?_, hdistinct⟩, haccepted⟩, fun a ha _ => ⟨a, ha, rfl, rfl⟩⟩
  intro x hx a ha
  rcases of_mem_set hx with rfl | hx
  · exact h.passes.current p (List.mem_of_getElem? hp) a (hsub.subset ha)
  · exact h.passes.current x hx a ha

theorem DeliverySound.post (h : DeliverySound C s) (k : ℕ) (reply : ClientReply)
    (hturn : InTurn C s (.post k reply)) :
    DeliverySound C (postStep s k reply) ∧ Settles s (postStep s k reply) := by
  unfold postStep
  cases hp : s.passes[k]? with
  | none => exact ⟨h, .refl s⟩
  | some p =>
    dsimp only
    split
    swap
    · exact ⟨h, .refl s⟩
    next a rest hbatch _ =>
    have hmem : a ∈ p.batch := hbatch ▸ List.mem_cons_self
    obtain ⟨hrow, hopen⟩ := h.passes.current p (List.mem_of_getElem? hp) a hmem
    have hsub : ({ p with reply := some reply } : DeliveryPass).batch.Sublist p.batch :=
      List.Sublist.refl _
    refine h.set hp hsub ?_
    split
    swap
    · exact ⟨h.accepted.below, h.accepted.settled, h.accepted.ordered⟩
    next haccepted =>
    have hfront : ∀ b ∈ s.queue.attempts.rows, b.id < a.id → SameObject C b a →
        b.status.isFinal = true := by
      refine hturn haccepted p hp a ?_
      rw [hbatch]
      rfl
    have hcases : ∀ b ∈ s.accepted ++ [a], b ∈ s.accepted ∨ b = a := by
      intro b hb
      rwa [List.mem_append, List.mem_singleton] at hb
    refine ⟨?_, ?_, ?_⟩
    · intro b hb
      rcases hcases b hb with hb | rfl
      · exact h.accepted.below b hb
      · exact h.queue.below b hrow
    · intro b hb c hc hlt hsame
      rcases hcases b hb with hb | rfl
      · exact h.accepted.settled b hb c hc hlt hsame
      · exact hfront c hc hlt hsame
    · rw [List.pairwise_append]
      refine ⟨h.accepted.ordered, List.pairwise_singleton _ _, fun b hb c hc hsame => ?_⟩
      obtain rfl := List.mem_singleton.1 hc
      -- a row that waits is not before one that was accepted
      by_contra hlt
      have hfinal := h.accepted.settled b hb c hrow (Nat.lt_of_not_le hlt)
        ⟨hsame.1.symm, hsame.2.symm⟩
      rw [hopen] at hfinal
      cases hfinal

/-- What an update makes of a row that is as it was read. -/
theorem updateOf_spec (C : DeliveryConfig) (now : Time) (a : DeliveryAttempt)
    (reply : ClientReply) (hcount : a.attemptCount < C.maxAttempts) :
    (updateOf C.maxAttempts now a reply).attemptCount ≤ C.maxAttempts ∧
      ((updateOf C.maxAttempts now a reply).status.isFinal = false →
        (updateOf C.maxAttempts now a reply).attemptCount < C.maxAttempts) := by
  refine ⟨hcount, fun hopen => ?_⟩
  dsimp only [updateOf] at hopen ⊢
  split at hopen
  · cases hopen
  · next hnot =>
    by_contra hge
    have hne : (statusOf reply).1 ≠ .retryable := fun hr => hnot ⟨hr, Nat.le_of_not_lt hge⟩
    unfold statusOf at hopen hne
    cases reply with
    | error reason => exact hne rfl
    | ok status =>
      dsimp only at hopen hne
      split at hopen
      · cases hopen
      · next hnotok =>
        rw [if_neg hnotok] at hne
        split at hopen
        · next hfive =>
          rw [if_pos hfive] at hne
          exact hne rfl
        · cases hopen

theorem DeliverySound.record (h : DeliverySound C s) (k : ℕ) :
    DeliverySound C (recordStep C s k) ∧ Settles s (recordStep C s k) := by
  unfold recordStep
  cases hp : s.passes[k]? with
  | none => exact ⟨h, .refl s⟩
  | some p =>
    dsimp only
    split
    swap
    · exact ⟨h, .refl s⟩
    next a rest reply hbatch _ =>
    have hpmem := List.mem_of_getElem? hp
    have hmem : a ∈ p.batch := hbatch ▸ List.mem_cons_self
    obtain ⟨hrow, hopen⟩ := h.passes.current p hpmem a hmem
    have hcount := h.queue.remaining a hrow hopen
    set u := updateOf C.maxAttempts p.now a reply with hu
    obtain ⟨hbounded, hremaining⟩ := updateOf_spec C p.now a reply hcount
    rw [← hu] at hbounded hremaining
    obtain ⟨hstatus, hattempts⟩ := applyUpdate_self a u
    -- the row is as the pass has read it, and the other rows stay
    have hrows : ∀ b' ∈ (updateAttempt a u s.queue).attempts.rows,
        (b' = applyUpdate a u a) ∨ (b' ∈ s.queue.attempts.rows ∧ b'.id ≠ a.id) := by
      intro b' hb'
      obtain ⟨b, hb, rfl⟩ := List.mem_map.1 hb'
      split
      · next hid => exact .inl (by rw [h.queue.eq hb hrow hid])
      · next hid => exact .inr ⟨hb, hid⟩
    have hkept : ∀ b ∈ s.queue.attempts.rows, b.id ≠ a.id →
        b ∈ (updateAttempt a u s.queue).attempts.rows := fun b hb hid =>
      List.mem_map.2 ⟨b, hb, if_neg hid⟩
    have hnodup := h.passes.distinct p hpmem
    rw [hbatch, List.map_cons, List.nodup_cons] at hnodup
    have hsub : ({ p with batch := rest, reply := none } : DeliveryPass).batch.Sublist p.batch := by
      rw [hbatch]
      exact List.sublist_cons_self a rest
    obtain ⟨halone, hdistinct⟩ := h.passes.set hp hsub
    refine ⟨⟨⟨?_, ?_, ?_, ?_⟩, ⟨halone, ?_, hdistinct⟩, ⟨h.accepted.below, ?_,
      h.accepted.ordered⟩⟩, ?_⟩
    · have hids : (updateAttempt a u s.queue).attempts.rows.map (·.id) =
          s.queue.attempts.rows.map (·.id) := by
        rw [updateAttempt, List.map_map]
        refine List.map_congr_left fun b _ => ?_
        rw [Function.comp_apply]
        split <;> rfl
      rw [hids]
      exact h.queue.nodup
    · intro b hb
      rcases hrows b hb with rfl | ⟨hb, -⟩
      · exact h.queue.below a hrow
      · exact h.queue.below b hb
    · intro b hb
      rcases hrows b hb with rfl | ⟨hb, -⟩
      · exact hattempts ▸ hbounded
      · exact h.queue.bounded b hb
    · intro b hb hbopen
      rcases hrows b hb with rfl | ⟨hb, -⟩
      · rw [hattempts]
        rw [hstatus] at hbopen
        exact hremaining hbopen
      · exact h.queue.remaining b hb hbopen
    · intro x hx b hb
      obtain ⟨j, hj⟩ := List.mem_iff_getElem?.1 hx
      rcases of_getElem?_set hj with ⟨rfl, rfl⟩ | ⟨hjk, hj⟩
      · obtain ⟨hbrow, hbopen⟩ := h.passes.current p hpmem b
          (hbatch ▸ List.mem_cons_of_mem _ hb)
        have hid : b.id ≠ a.id := fun heq => hnodup.1 (heq ▸ List.mem_map_of_mem hb)
        exact ⟨hkept b hbrow hid, hbopen⟩
      · -- the other passes have no rows
        exact absurd (h.passes.alone j k x p hj hp (List.ne_nil_of_mem hb)
          (List.ne_nil_of_mem hmem)) hjk
    · intro b hb c hc hlt hsame
      rcases hrows c hc with rfl | ⟨hc, -⟩
      · exact absurd (h.accepted.settled b hb a hrow hlt hsame) (by rw [hopen]; decide)
      · exact h.accepted.settled b hb c hc hlt hsame
    · intro b hb hfinal
      have hid : b.id ≠ a.id := by
        intro heq
        rw [h.queue.eq hb hrow heq, hopen] at hfinal
        cases hfinal
      exact ⟨b, hkept b hb hid, rfl, rfl⟩

theorem DeliverySound.stop (h : DeliverySound C s) (k : ℕ) :
    DeliverySound C (deliveryStep C s (.stop k)) ∧ Settles s (deliveryStep C s (.stop k)) := by
  dsimp only [deliveryStep]
  rw [List.modify_eq_set_getElem?]
  cases hp : s.passes[k]? with
  | none => exact ⟨h, .refl s⟩
  | some p =>
    have hsub : ({ p with batch := [] } : DeliveryPass).batch.Sublist p.batch := List.nil_sublist _
    exact h.set hp hsub ⟨h.accepted.below, h.accepted.settled, h.accepted.ordered⟩

/-- **What a step in turn preserves.** -/
theorem DeliverySound.step (h : DeliverySound C s) {a : DeliveryStep} (hturn : InTurn C s a) :
    DeliverySound C (deliveryStep C s a) ∧ Settles s (deliveryStep C s a) := by
  cases a with
  | enqueue now intent inbox =>
    exact h.insertAttempt now intent.publicationId inbox
      (ActivityBuilder.fromIntent intent C.baseUrl)
  | enqueueActivity now publicationId inbox activity =>
    exact h.insertAttempt now publicationId inbox activity
  | startPass now limit tie =>
    exact ⟨h.startPass now limit tie hturn, fun a ha _ => ⟨a, ha, rfl, rfl⟩⟩
  | post k reply => exact h.post k reply hturn
  | record k => exact h.record k
  | stop k => exact h.stop k

/-! ### Runs -/

theorem deliverySound_empty (C : DeliveryConfig) : DeliverySound C .empty where
  queue :=
    { nodup := List.nodup_nil
      below := fun _ h => by cases h
      bounded := fun _ h => by cases h
      remaining := fun _ h => by cases h }
  passes :=
    { alone := fun _ _ _ _ h => by cases h
      current := fun _ h => by cases h
      distinct := fun _ h => by cases h }
  accepted :=
    { below := fun _ h => by cases h
      settled := fun _ h => by cases h
      ordered := List.Pairwise.nil }

theorem DeliverySound.run (h : DeliverySound C s) {as : List DeliveryStep}
    (hturn : Along (deliveryStep C) (InTurn C) s as) :
    DeliverySound C (exec (deliveryStep C) s as) ∧ Settles s (exec (deliveryStep C) s as) := by
  refine hturn.invariant (I := fun t => DeliverySound C t ∧ Settles s t) ?_ ⟨h, .refl s⟩
  rintro t a ⟨ht, hst⟩ ha
  obtain ⟨ht', htt'⟩ := ht.step ha
  exact ⟨ht', hst.trans htt'⟩

/-- All publications are about one note. -/
def toyDelivery : DeliveryConfig := ⟨"https://relay.test", 10, by decide, fun _ => "note"⟩

def noteIntent (publicationId : String) (action : PublicationAction) : PublicationIntent where
  publicationId := publicationId
  intentId := publicationId
  authorDid := "did:elix:a"
  contentItemId := "note"
  action := action
  visibility := .isPublic
  payload := .obj [("type", .str "note"), ("actor", .str "a"), ("body", .str "hello")]
  receivedAt := 0

/-- A note is created and deleted, and a pass comes to both. -/
def notePass (reply : ClientReply) : List DeliveryStep :=
  [.enqueue 0 (noteIntent "p1" .publish) "https://r.test/inbox",
    .enqueue 1 (noteIntent "p2" .delete) "https://r.test/inbox",
    .startPass 2 50 id, .post 0 reply, .record 0, .post 0 (.ok 202), .record 0]

end Ansible
