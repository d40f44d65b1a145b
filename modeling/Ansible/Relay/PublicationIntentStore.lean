import Ansible.Relay.Federation

/-!
# Accepted publication intents

An accepted intent is stored under an identifier that is made of its own, and an attempt is
queued for every inbox of the followers of its author's actor.

## Main definitions

* `PublicationIntentStore.accept` — storing and queueing.
* `PublicationIntentStore.listForActor`, `getByPublicationId` — what outboxes and the object
  endpoint read.

## Main results

* `PublicationIntentStore.enqueueAll_fresh` — **a fresh intent is queued for every inbox.**
-/

namespace Ansible

inductive AcceptError
  | duplicate
  /-- The other errors of the changeset. -/
  | invalid
  /-- A value that its column cannot hold, or one of the wrong type. -/
  | raised
  deriving DecidableEq, Repr

/-- What the endpoint passes on. -/
structure IntentAttrs where
  intentId : String
  authorDid : String
  contentItemId : String
  action : PublicationAction
  visibility : PublicationVisibility
  payload : Json

namespace PublicationIntentStore

/-- The address that activities carry in deliveries. -/
def deliveryBaseUrl : String := "https://relay.elix.cool"

def publicationId (P : Platform) (intentId : String) : String :=
  "pub_" ++ String.ofList ((encode16 (P.sha256 (bytes intentId))).take 32)

def rowOf (P : Platform) (now : Time) (attrs : IntentAttrs) : PublicationRow where
  publicationId := publicationId P attrs.intentId
  intentId := attrs.intentId
  authorDid := attrs.authorDid
  contentItemId := attrs.contentItemId
  action := attrs.action
  visibility := attrs.visibility
  payload := attrs.payload
  receivedAt := now
  deliveryStatus := .queued

/-- The inboxes of the followers that a preference allows, each one once. -/
def inboxesOf (C : FediverseConfig) (preference : Option FediversePreference) (actor : String)
    (s : Federation) : List String :=
  (((s.followersOf actor).filter fun f => FediversePreferences.allowedRemote C.blockedDomains
    preference f.remoteActor (some f.remoteInbox)).map (·.remoteInbox)).eraseDups

/-- The inboxes for an intent: those of the actor that has the name it gives. -/
def targets (C : FediverseConfig) (i : PublicationIntent) (s : Federation) : List String :=
  let actor := ActivityBuilder.actorName i
  inboxesOf C (FediversePreferences.getByActor actor s.preferences) actor s

/-- Queue the activity for one inbox after the other; an exception ends it. -/
def enqueueAll (now : Time) (i : PublicationIntent) :
    List String → DeliveryQueue → List (Except EnqueueError DeliveryAttempt) × DeliveryQueue
  | [], q => ([], q)
  | inbox :: rest, q =>
    match DeliveryQueue.enqueue now i inbox deliveryBaseUrl q with
    | (.error .raised, q) => ([.error .raised], q)
    | (r, q) => (r :: (enqueueAll now i rest q).1, (enqueueAll now i rest q).2)

def isRaised : Except EnqueueError DeliveryAttempt → Bool
  | .error .raised => true
  | _ => false

def isFailure : Except EnqueueError DeliveryAttempt → Bool
  | .error .invalid => true
  | _ => false

def statusOf (results : List (Except EnqueueError DeliveryAttempt)) : QueueingStatus :=
  if results.any isFailure then .enqueueFailed
  else if results.isEmpty then .awaitingFollowers
  else .queued

/-- The row of an intent takes its status. -/
def setStatus (intentId : String) (status : QueueingStatus) (t : PublicationTable) :
    PublicationTable where
  rows := t.rows.map fun row =>
    if row.intentId = intentId then { row with deliveryStatus := status } else row
  valid :=
    { publicationId := t.valid.publicationId.map (fun row => by split <;> rfl) fun _ _ => rfl
      intentId := t.valid.intentId.map (fun row => by split <;> rfl) fun _ _ => rfl }

/-- The attempts for the followers of the actor whose name the intent gives. -/
def fanOutToFollowers (C : FediverseConfig) (now : Time) (row : PublicationRow) (s : Federation) :
    Except AcceptError PublicationRow × Federation :=
  let (results, queue) :=
    enqueueAll now row.toPublicationIntent (targets C row.toPublicationIntent s) s.queue
  if results.any isRaised then (.error .raised, { s with queue })
  else
    let status := statusOf results
    (.ok { row with deliveryStatus := status },
      { s with queue, publications := setStatus row.intentId status s.publications })

def accept (C : FediverseConfig) (now : Time) (attrs : IntentAttrs) (s : Federation) :
    Except AcceptError PublicationRow × Federation :=
  let columns := [attrs.intentId, attrs.authorDid, attrs.contentItemId]
  if columns.any isBlank then (.error .invalid, s)
  else if !(columns.all fitsVarchar && fitsJsonb attrs.payload) then (.error .raised, s)
  else
    let row := rowOf C.toPlatform now attrs
    match s.publications.insert row with
    | none => (.error .duplicate, s)
    | some publications => fanOutToFollowers C now row { s with publications }

/-- The accepted intents whose actor has the name, the oldest first. -/
def listForActor (actor : String) (s : Federation) : List PublicationRow :=
  s.publications.rows.filter fun row =>
    ActivityBuilder.actorName row.toPublicationIntent == actor

def getByPublicationId (publicationId : String) (s : Federation) : Option PublicationRow :=
  s.publications.find (·.publicationId == publicationId)

/-! ### Queueing -/

variable {inbox : String} {i : PublicationIntent} {q : DeliveryQueue}

theorem mem_inboxesOf {C : FediverseConfig} {preference : Option FediversePreference}
    {actor : String} {s : Federation} :
    inbox ∈ inboxesOf C preference actor s ↔ ∃ f ∈ s.followers.rows, f.actor = actor ∧
      FediversePreferences.allowedRemote C.blockedDomains preference f.remoteActor
        (some f.remoteInbox) = true ∧ f.remoteInbox = inbox := by
  rw [inboxesOf, List.mem_eraseDups, List.mem_map]
  constructor
  · rintro ⟨f, hf, hinbox⟩
    obtain ⟨hmem, hallowed⟩ := List.mem_filter.1 hf
    obtain ⟨hrow, hactor⟩ := Federation.mem_followersOf.1 hmem
    exact ⟨f, hrow, hactor, hallowed, hinbox⟩
  · rintro ⟨f, hrow, hactor, hallowed, hinbox⟩
    exact ⟨f, List.mem_filter.2 ⟨Federation.mem_followersOf.2 ⟨hrow, hactor⟩, hallowed⟩, hinbox⟩

/-- An attempt that can be stored and is not there yet is added. -/
theorem enqueue_fresh {now : Time} (hblank : isBlank i.publicationId = false)
    (hurl : isBlank (ActivityBuilder.activityUrl i.publicationId deliveryBaseUrl) = false)
    (hfits : fitsVarchar i.publicationId = true)
    (hfitsUrl : fitsVarchar (ActivityBuilder.activityUrl i.publicationId deliveryBaseUrl) = true)
    (hinbox : isBlank inbox = false) (hfitsInbox : fitsVarchar inbox = true)
    (hnew : ∀ a ∈ q.attempts.rows, a.publicationId = i.publicationId → a.remoteInbox ≠ inbox) :
    ∃ a attempts, DeliveryQueue.enqueue now i inbox deliveryBaseUrl q =
        (.ok a, ⟨attempts, q.nextId + 1⟩) ∧
      attempts.rows = q.attempts.rows ++ [a] ∧ a.publicationId = i.publicationId ∧
      a.remoteInbox = inbox := by
  have hid : (ActivityBuilder.fromIntent i deliveryBaseUrl).fetch "id" =
      .str (ActivityBuilder.activityUrl i.publicationId deliveryBaseUrl) :=
    ActivityBuilder.fetch_present rfl rfl
  have htype : (ActivityBuilder.fromIntent i deliveryBaseUrl).fetch "type" =
      .str (ActivityBuilder.activityType i.action) := ActivityBuilder.fetch_present rfl rfl
  have htypeBlank : isBlank (ActivityBuilder.activityType i.action) = false := by
    cases i.action <;> decide +kernel
  have htypeFits : fitsVarchar (ActivityBuilder.activityType i.action) = true := by
    cases i.action <;> decide +kernel
  have hcases := DeliveryQueue.insertAttempt_cases now i.publicationId inbox
    (ActivityBuilder.fromIntent i deliveryBaseUrl) q
  rcases hcases with ⟨e, heq⟩ | ⟨a, attempts, heq, hrows, -, -, -, hpub, hbox⟩
  · exfalso
    unfold DeliveryQueue.insertAttempt at heq
    rw [hid, htype] at heq
    dsimp only at heq
    rw [if_neg (by simp [hblank, hinbox, hurl, htypeBlank]),
      if_neg (by simp [hfits, hfitsInbox, hfitsUrl, htypeFits])] at heq
    split at heq
    · next hnone =>
      -- the unique index has room for the pair
      have hvalid := q.attempts.valid.append_new (r :=
        { id := q.nextId, publicationId := i.publicationId, remoteInbox := inbox
          activityId := ActivityBuilder.activityUrl i.publicationId deliveryBaseUrl
          activityType := ActivityBuilder.activityType i.action
          payload := ActivityBuilder.fromIntent i deliveryBaseUrl, status := .pending
          attemptCount := 0, lastAttemptAt := none, nextRetryAt := none, lastError := none
          insertedAt := now }) (by
        intro a ha hkey
        obtain ⟨hpub, hbox⟩ := Prod.mk.inj hkey
        exact hnew a ha hpub hbox)
      rw [Table.insert] at hnone
      have hsome := Table.commit_isSome.2 hvalid
      rw [hnone] at hsome
      cases hsome
    · cases heq
  · exact ⟨a, attempts, heq, hrows, hpub, hbox⟩

/-! ### Texts that columns can hold -/

theorem isBlank_append {pre : String} (h : isBlank pre = false) (rest : String) :
    isBlank (pre ++ rest) = false := by
  rw [isBlank, chars_eq_toList] at h ⊢
  rw [String.toList_append, List.all_append, h, Bool.false_and]

theorem fitsVarchar_iff {s : String} :
    fitsVarchar s = true ↔ s.toList.length ≤ 255 ∧ Char.ofNat 0 ∉ s.toList := by
  simp [fitsVarchar, chars_eq_toList]

theorem zero_not_mem_encode16 (b : Binary) : Char.ofNat 0 ∉ encode16 b := by
  have hdigit : ∀ n : ℕ, n < 16 → n.digitChar ≠ Char.ofNat 0 := by decide
  intro hmem
  obtain ⟨x, -, hx⟩ := List.mem_flatMap.1 hmem
  have hlt : x.toNat < 256 := x.toNat_lt
  rcases List.mem_cons.1 hx with hx | hx
  · exact hdigit (x.toNat / 16) (by omega) hx.symm
  · exact hdigit (x.toNat % 16) (by omega) (List.mem_singleton.1 hx).symm

/-- An identifier of a publication, after a short text, can be stored. -/
theorem fitsVarchar_publicationId {pre : String} (hlen : pre.toList.length ≤ 200)
    (hzero : Char.ofNat 0 ∉ pre.toList) (P : Platform) (intentId : String) :
    fitsVarchar (pre ++ publicationId P intentId) = true := by
  have hchars : (pre ++ publicationId P intentId).toList =
      pre.toList ++ ("pub_".toList ++ (encode16 (P.sha256 (bytes intentId))).take 32) := by
    simp only [publicationId, String.toList_append, String.toList_ofList]
  rw [fitsVarchar_iff, hchars]
  constructor
  · rw [List.length_append, List.length_append, List.length_take]
    have hpub : "pub_".toList.length = 4 := rfl
    omega
  · rw [List.mem_append, List.mem_append, not_or, not_or]
    exact ⟨hzero, by decide, fun h => zero_not_mem_encode16 _ (List.mem_of_mem_take h)⟩

/-- The columns of an attempt for an accepted intent can be stored. -/
theorem enqueue_of_publicationId {P : Platform} (now : Time)
    (hid : i.publicationId = publicationId P i.intentId) (hinbox : isBlank inbox = false)
    (hfits : fitsVarchar inbox = true)
    (hnew : ∀ a ∈ q.attempts.rows, a.publicationId = i.publicationId → a.remoteInbox ≠ inbox) :
    ∃ a attempts, DeliveryQueue.enqueue now i inbox deliveryBaseUrl q =
        (.ok a, ⟨attempts, q.nextId + 1⟩) ∧
      attempts.rows = q.attempts.rows ++ [a] ∧ a.publicationId = i.publicationId ∧
      a.remoteInbox = inbox := by
  have hpub : fitsVarchar ("" ++ publicationId P i.intentId) = true :=
    fitsVarchar_publicationId (by decide) (by decide) P i.intentId
  rw [String.empty_append] at hpub
  refine enqueue_fresh ?_ ?_ ?_ ?_ hinbox hfits hnew
  · rw [hid]
    exact isBlank_append (by decide +kernel) _
  · exact isBlank_append (isBlank_append (by decide +kernel) _) _
  · rw [hid]
    exact hpub
  · rw [hid]
    exact fitsVarchar_publicationId (by decide +kernel) (by decide +kernel) P i.intentId

/-- **A fresh intent is queued for every inbox.** -/
theorem enqueueAll_fresh {P : Platform} (now : Time)
    (hid : i.publicationId = publicationId P i.intentId) {inboxes : List String}
    (hnodup : inboxes.Nodup)
    (hinboxes : ∀ inbox ∈ inboxes, isBlank inbox = false ∧ fitsVarchar inbox = true)
    (hnew : ∀ a ∈ q.attempts.rows, a.publicationId = i.publicationId → a.remoteInbox ∉ inboxes) :
    ∃ new, (enqueueAll now i inboxes q).1 = new.map .ok ∧
      (enqueueAll now i inboxes q).2.attempts.rows = q.attempts.rows ++ new ∧
      (∀ a ∈ new, a.publicationId = i.publicationId) ∧ new.map (·.remoteInbox) = inboxes := by
  induction inboxes generalizing q with
  | nil =>
    refine ⟨[], rfl, (List.append_nil _).symm, ?_, rfl⟩
    intro a ha
    cases ha
  | cons inbox rest ih =>
    obtain ⟨hblank, hfits⟩ := hinboxes inbox List.mem_cons_self
    obtain ⟨a, attempts, heq, hrows, hpub, hbox⟩ := enqueue_of_publicationId now hid hblank
      hfits fun a ha hpub heq => hnew a ha hpub (heq ▸ List.mem_cons_self)
    obtain ⟨hnotin, hrest⟩ := List.nodup_cons.1 hnodup
    have hnew' : ∀ b ∈ attempts.rows, b.publicationId = i.publicationId → b.remoteInbox ∉ rest := by
      intro b hb hpubb
      rcases List.mem_append.1 (hrows ▸ hb) with hb | hb
      · exact fun hmem => hnew b hb hpubb (List.mem_cons_of_mem _ hmem)
      · obtain rfl := List.mem_singleton.1 hb
        rwa [hbox]
    obtain ⟨new, hresults, hall, hpubs, hboxes⟩ := ih hrest
      (fun x hx => hinboxes x (List.mem_cons_of_mem _ hx)) (q := ⟨attempts, q.nextId + 1⟩) hnew'
    refine ⟨a :: new, ?_, ?_, ?_, ?_⟩
    · rw [enqueueAll, heq]
      dsimp only
      rw [hresults, List.map_cons]
    · rw [enqueueAll, heq]
      dsimp only
      rw [hall, hrows, List.append_assoc, List.singleton_append]
    · intro b hb
      rcases List.mem_cons.1 hb with rfl | hb
      · exact hpub
      · exact hpubs b hb
    · rw [List.map_cons, hbox, hboxes]

/-- The row of a fresh intent is queued for every target and takes its status. -/
theorem fanOut_fresh {C : FediverseConfig} (now : Time) {row : PublicationRow} {s : Federation}
    (hid : row.publicationId = publicationId C.toPlatform row.intentId)
    (hinboxes : ∀ inbox ∈ targets C row.toPublicationIntent s,
      isBlank inbox = false ∧ fitsVarchar inbox = true)
    (hfresh : ∀ a ∈ s.queue.attempts.rows, a.publicationId ≠ row.publicationId) :
    ∃ status queue new, fanOutToFollowers C now row s = (.ok { row with deliveryStatus := status },
        { s with queue, publications := setStatus row.intentId status s.publications }) ∧
      queue.attempts.rows = s.queue.attempts.rows ++ new ∧
      (∀ a ∈ new, a.publicationId = row.publicationId) ∧
      new.map (·.remoteInbox) = targets C row.toPublicationIntent s := by
  have hnodup : (targets C row.toPublicationIntent s).Nodup := nodup_eraseDups _
  obtain ⟨new, hresults, hqueue, hpubs, hboxes⟩ := enqueueAll_fresh now hid hnodup
    hinboxes fun a ha hpub => absurd hpub (hfresh a ha)
  have hraised : (new.map (Except.ok (ε := EnqueueError))).any isRaised = false := by
    rw [List.any_map]
    exact List.any_eq_false.2 fun a _ => by simp [isRaised]
  refine ⟨statusOf (new.map .ok), _, new, ?_, hqueue, hpubs, hboxes⟩
  unfold fanOutToFollowers
  dsimp only
  rw [hresults, hraised]
  rfl

end PublicationIntentStore

end Ansible
