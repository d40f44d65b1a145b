import Ansible.Lib.Run
import Ansible.Relay.Inbox
import Ansible.Relay.PublicationIntentController

/-!
# Runs of the federation state

Accounts change, users set their preferences and leave, remote actors write to inboxes, authors
publish, and the delivery queue is worked off, in any order.

## Main definitions

* `FediversePreferenceController.update`, `AccountDeletion.request` — consent and its end.
* `FederationStep`, `federationStep` — the machine.

## Main results

* `federationSound_exec` — **the states of all runs are sound.**
-/

namespace Ansible

/-! ### Consent -/

inductive PreferenceRefusal
  | accountUnavailable
  | requiresVerifiedHuman
  | notStored (e : FediversePreferences.PutError)
  deriving DecidableEq, Repr

namespace FediversePreferenceController

/-- An update whose signature has been checked; the name is that of the account. -/
def update (attrs : FediversePreference) (s : Federation) :
    Except PreferenceRefusal FediversePreference × Federation :=
  match DidAccountCache.get attrs.did s.relay with
  | (none, r) => (.error .accountUnavailable, { s with relay := r })
  | (some entry, r) =>
    let s := { s with relay := r }
    if entry.handle = "" then (.error .accountUnavailable, s)
    else if attrs.enabled && !ReputationTier.meets entry.reputationTier "verified_human" then
      (.error .requiresVerifiedHuman, s)
    else
      let p := { attrs with
        actor := entry.handle
        allowedDomains := FediversePreferences.normalizeDomains attrs.allowedDomains
        blockedDomains := FediversePreferences.normalizeDomains attrs.blockedDomains
        blockedActors := FediversePreferences.normalizeActors attrs.blockedActors }
      match FediversePreferences.put p s.preferences with
      | .error e => (.error (.notStored e), s)
      | .ok preferences => (.ok p, { s with preferences })

end FediversePreferenceController

namespace AccountDeletion

def deleteActivity (actor baseUrl : String) : Json :=
  let actorUri := Actor.actorUrl actor baseUrl
  .obj [("@context", .str "https://www.w3.org/ns/activitystreams"),
    ("id", .str (actorUri ++ "#delete")), ("type", .str "Delete"), ("actor", .str actorUri),
    ("object", .str actorUri), ("to", ActivityBuilder.texts [ActivityBuilder.publicCollection])]

def publicationId (did : String) : String := "ap-account-delete:" ++ did

/-- `none` stands for an exception. -/
def insertDeletes (now : Time) (did : String) (activity : Json) :
    List String → DeliveryQueue → Option DeliveryQueue
  | [], q => some q
  | inbox :: rest, q =>
    match DeliveryQueue.insertAttempt now (publicationId did) inbox activity q with
    | (.ok _, q) => insertDeletes now did activity rest q
    | (.error .duplicate, q) => insertDeletes now did activity rest q
    | (.error _, _) => none

/-- One transaction; `none` when it is rolled back. -/
def request (C : FediverseConfig) (now : Time) (did actor baseUrl : String) (s : Federation) :
    Option Federation := do
  let preference ← FediversePreferences.getByDid did s.preferences
  let inboxes := PublicationIntentStore.inboxesOf C (some preference) actor s
  let queue ← insertDeletes now did (deleteActivity actor baseUrl) inboxes s.queue
  let preferences ← s.preferences.update (·.did == did) fun p =>
    { p with enabled := false, allowRemoteFollowers := false, revision := p.revision + 1 }
  return { s with queue, preferences, followers := s.followers.remove (·.actor == actor) }

/-- A deletion whose signature has been checked. -/
def delete (C : FediverseConfig) (now : Time) (did baseUrl : String) (s : Federation) :
    Federation :=
  match DidAccountCache.get did s.relay with
  | (none, r) => { s with relay := r }
  | (some entry, r) =>
    (request C now did entry.handle baseUrl { s with relay := r }).getD { s with relay := r }

end AccountDeletion

/-! ### The machine -/

inductive FederationStep
  /-- Registrations, anchors, credentials and the expiry of caches change the accounts. -/
  | identity (relay : Relay)
  | preference (attrs : FediversePreference)
  | deleteAccount (now : Time) (did baseUrl : String)
  | inbox (q : InboxRequest)
  | publish (q : PublicationRequest)
  /-- A pass over the queue writes down what came of an attempt. -/
  | delivery (a : DeliveryAttempt) (u : DeliveryQueue.AttemptUpdate)

def federationStep (C : FediverseConfig) (s : Federation) : FederationStep → Federation
  | .identity relay => { s with relay }
  | .preference attrs => (FediversePreferenceController.update attrs s).2
  | .deleteAccount now did baseUrl => AccountDeletion.delete C now did baseUrl s
  | .inbox q => (ActivityPubController.inbox C q s).2
  | .publish q => (PublicationIntentController.create C q s).2
  | .delivery a u => { s with queue := DeliveryQueue.updateAttempt a u s.queue }

/-- Neither the log of the inbox nor the intents change but by the steps that write them. -/
theorem local_step_frame (C : FediverseConfig) (s : Federation) {a : FederationStep}
    (hinbox : ∀ q, a ≠ .inbox q) (hpublish : ∀ q, a ≠ .publish q) :
    ∃ relay preferences followers queue,
      federationStep C s a = { s with relay, preferences, followers, queue } := by
  cases a with
  | identity relay => exact ⟨_, _, _, _, rfl⟩
  | preference attrs =>
    rw [federationStep]
    unfold FediversePreferenceController.update
    split
    · exact ⟨_, _, _, _, rfl⟩
    dsimp only
    iterate 3
      split
      · exact ⟨_, _, _, _, rfl⟩
    · exact ⟨_, _, _, _, rfl⟩
  | deleteAccount now did baseUrl =>
    rw [federationStep]
    unfold AccountDeletion.delete
    split
    · exact ⟨_, _, _, _, rfl⟩
    next entry r _ =>
    cases hrequest : AccountDeletion.request C now did entry.handle baseUrl { s with
      relay := r } with
    | none => exact ⟨_, _, _, _, rfl⟩
    | some t =>
      simp only [AccountDeletion.request, Option.bind_eq_bind, Option.bind_eq_some_iff,
        Option.pure_def, Option.some.injEq] at hrequest
      obtain ⟨_, -, _, -, _, -, rfl⟩ := hrequest
      exact ⟨_, _, _, _, rfl⟩
  | inbox q => exact absurd rfl (hinbox q)
  | publish q => exact absurd rfl (hpublish q)
  | delivery a u => exact ⟨_, _, _, _, rfl⟩

/-- The accepted intents, the oldest first. -/
def Federation.intents (s : Federation) : List PublicationIntent :=
  s.publications.rows.map (·.toPublicationIntent)

/-- Acceptances and deletions are queued under names of their own. -/
def OwnQueueName (publicationId : String) : Prop := "ap-".toList <+: publicationId.toList

/-- What is known of the states of a run. -/
structure FederationSound (C : FediverseConfig) (s : Federation) : Prop where
  /-- The inbox of a follower can be stored. -/
  inboxes : ∀ f ∈ s.followers.rows, isBlank f.remoteInbox = false ∧ fitsVarchar f.remoteInbox = true
  /-- An attempt is for an accepted intent, or has a name of its own. -/
  attempts : ∀ a ∈ s.queue.attempts.rows,
    (∃ i ∈ s.intents, i.publicationId = a.publicationId) ∨ OwnQueueName a.publicationId
  ids : ∀ i ∈ s.intents, i.publicationId =
    PublicationIntentStore.publicationId C.toPlatform i.intentId

/-! ### Soundness -/

theorem ownQueueName_append (pre : String) (h : "ap-".toList <+: pre.toList) (rest : String) :
    OwnQueueName (pre ++ rest) := by
  rw [OwnQueueName, String.toList_append]
  exact h.trans (List.prefix_append _ _)

theorem not_ownQueueName_publicationId (P : Platform) (intentId : String) :
    ¬ OwnQueueName (PublicationIntentStore.publicationId P intentId) := by
  rw [OwnQueueName, PublicationIntentStore.publicationId, String.toList_append]
  rintro ⟨rest, hrest⟩
  have hhead := congrArg List.head? hrest
  simp at hhead

namespace FederationSound

variable {C : FediverseConfig} {s t : Federation}

theorem of_eq (h : FederationSound C s) (hfollowers : t.followers = s.followers)
    (hqueue : t.queue = s.queue) (hpublications : t.publications = s.publications) :
    FederationSound C t := by
  have hintents : t.intents = s.intents := congrArg (fun p => p.rows.map (·.toPublicationIntent))
    hpublications
  refine ⟨?_, ?_, ?_⟩
  · rw [hfollowers]
    exact h.inboxes
  · rw [hqueue, hintents]
    exact h.attempts
  · rw [hintents]
    exact h.ids

/-- Followers of whom the new ones can be stored. -/
theorem withFollowers (h : FederationSound C s) {followers : FollowerTable}
    (hnew : ∀ f ∈ followers.rows, f ∈ s.followers.rows ∨
      (isBlank f.remoteInbox = false ∧ fitsVarchar f.remoteInbox = true)) :
    FederationSound C { s with followers } := by
  refine ⟨fun f hf => ?_, h.attempts, h.ids⟩
  rcases hnew f hf with hold | hvalid
  · exact h.inboxes f hold
  · exact hvalid

/-- Attempts of which the new ones have names of their own. -/
theorem withQueue (h : FederationSound C s) {queue : DeliveryQueue}
    (hnew : ∀ a ∈ queue.attempts.rows,
      (∃ b ∈ s.queue.attempts.rows, b.publicationId = a.publicationId) ∨
        OwnQueueName a.publicationId) :
    FederationSound C { s with queue } := by
  refine ⟨h.inboxes, fun a ha => ?_, h.ids⟩
  rcases hnew a ha with ⟨b, hb, hpub⟩ | hown
  · rw [← hpub]
    exact h.attempts b hb
  · exact .inr hown

/-- An attempt with a name of its own is queued. -/
theorem insertAttempt (h : FederationSound C s) (now : Time) {publicationId : String}
    (hown : OwnQueueName publicationId) (inbox : String) (activity : Json) :
    FederationSound C { s with
      queue := (DeliveryQueue.insertAttempt now publicationId inbox activity s.queue).2 } := by
  refine h.withQueue fun a ha => ?_
  rcases DeliveryQueue.insertAttempt_cases now publicationId inbox activity s.queue with
    ⟨e, heq⟩ | ⟨b, attempts, heq, hrows, -, -, -, hpub, -⟩
  · rw [heq] at ha
    exact .inl ⟨a, ha, rfl⟩
  · rw [heq] at ha
    rcases List.mem_append.1 (hrows ▸ ha) with ha | ha
    · exact .inl ⟨a, ha, rfl⟩
    · obtain rfl := List.mem_singleton.1 ha
      exact .inr (hpub ▸ hown)

theorem effect (h : FederationSound C s) {q : InboxRequest} (he : Inbox.Effect C q s t) :
    FederationSound C t := by
  cases he with
  | nothing => exact h
  | @follow remoteActor inbox followers hactor hfollowers =>
    have hnew : ∀ f ∈ followers.rows, f ∈ s.followers.rows ∨
        (isBlank f.remoteInbox = false ∧ fitsVarchar f.remoteInbox = true) := by
      intro f hf
      rcases Inbox.upsertFollower_cases hfollowers with rfl | ⟨hblank, hfits, followId, hupsert⟩
      · exact .inl hf
      unfold Table.upsert at hupsert
      split at hupsert
      · obtain ⟨g, hg, rfl⟩ := (Table.mem_update hupsert).1 hf
        split
        · exact .inr ⟨hblank, hfits⟩
        · exact .inl hg
      · rcases (Table.mem_insert hupsert).1 hf with hf | rfl
        · exact .inl hf
        · exact .inr ⟨hblank, hfits⟩
    exact (h.withFollowers hnew).insertAttempt q.now
      (ownQueueName_append "ap-accept:" (by decide) _) inbox _
  | unfollow _ _ _ _ =>
    exact h.withFollowers fun f hf => .inl (List.mem_of_mem_filter hf)
  | record _ =>
    rcases InboundStore.record_cases q.now q.actor _ q.activity s with
      ⟨n, heq⟩ | ⟨row, inbound, n, heq, -⟩
    · rw [heq]
      exact h.of_eq rfl rfl rfl
    · rw [heq]
      exact h.of_eq rfl rfl rfl

theorem insertDeletes {now : Time} {did : String} {activity : Json} {inboxes : List String} :
    ∀ {q q' : DeliveryQueue}, AccountDeletion.insertDeletes now did activity inboxes q = some q' →
      ∀ a ∈ q'.attempts.rows, a ∈ q.attempts.rows ∨ OwnQueueName a.publicationId := by
  induction inboxes with
  | nil =>
    intro q q' h a ha
    cases h
    exact .inl ha
  | cons inbox rest ih =>
    intro q q' h a ha
    rw [AccountDeletion.insertDeletes] at h
    rcases DeliveryQueue.insertAttempt_cases now (AccountDeletion.publicationId did)
      inbox activity q
      with ⟨e, heq⟩ | ⟨b, attempts, heq, hrows, -, -, -, hpub, -⟩
    · rw [heq] at h
      cases e with
      | duplicate => exact ih h a ha
      | invalid => cases h
      | raised => cases h
    · rw [heq] at h
      rcases ih h a ha with ha | ha
      · rcases List.mem_append.1 (hrows ▸ ha) with ha | ha
        · exact .inl ha
        · obtain rfl := List.mem_singleton.1 ha
          rw [hpub]
          exact .inr (ownQueueName_append "ap-account-delete:" (by decide) did)
      · exact .inr ha

theorem request (h : FederationSound C s) {now : Time} {did actor baseUrl : String}
    (hrequest : AccountDeletion.request C now did actor baseUrl s = some t) :
    FederationSound C t := by
  simp only [AccountDeletion.request, Option.bind_eq_bind, Option.bind_eq_some_iff,
    Option.pure_def, Option.some.injEq] at hrequest
  obtain ⟨preference, -, queue, hqueue, preferences, -, rfl⟩ := hrequest
  have hdeletes : FederationSound C { s with queue } := h.withQueue fun a ha => by
    rcases insertDeletes hqueue a ha with ha | hown
    · exact .inl ⟨a, ha, rfl⟩
    · exact .inr hown
  have hremoved : FederationSound C
      { s with queue, followers := s.followers.remove (·.actor == actor) } :=
    hdeletes.withFollowers fun f hf => .inl (List.mem_of_mem_filter hf)
  exact hremoved.of_eq rfl rfl rfl

theorem delete (h : FederationSound C s) (now : Time) (did baseUrl : String) :
    FederationSound C (AccountDeletion.delete C now did baseUrl s) := by
  unfold AccountDeletion.delete
  split
  · exact h.of_eq rfl rfl rfl
  next entry r _ =>
  have hrelay : FederationSound C { s with relay := r } := h.of_eq rfl rfl rfl
  cases hrequest : AccountDeletion.request C now did entry.handle baseUrl { s with relay := r } with
  | none => exact hrelay
  | some t => exact hrelay.request hrequest

theorem update (h : FederationSound C s) (attrs : FediversePreference) :
    FederationSound C (FediversePreferenceController.update attrs s).2 := by
  unfold FediversePreferenceController.update
  split
  · exact h.of_eq rfl rfl rfl
  dsimp only
  iterate 3
    split
    · exact h.of_eq rfl rfl rfl
  · exact h.of_eq rfl rfl rfl

theorem updateAttempt (h : FederationSound C s) (a : DeliveryAttempt)
    (u : DeliveryQueue.AttemptUpdate) :
    FederationSound C { s with queue := DeliveryQueue.updateAttempt a u s.queue } := by
  refine h.withQueue fun b hb => .inl ?_
  obtain ⟨row, hrow, rfl⟩ := List.mem_map.1 hb
  refine ⟨row, hrow, ?_⟩
  split <;> rfl

end FederationSound

/-! ### Accepted intents -/

/-- What an accepted intent writes. -/
structure Stored (C : FediverseConfig) (now : Time) (attrs : IntentAttrs) (s : Federation)
    (row : PublicationRow) (t : Federation) : Prop where
  intent : row.toPublicationIntent =
    (PublicationIntentStore.rowOf C.toPlatform now attrs).toPublicationIntent
  frame : t = { s with publications := t.publications, queue := t.queue }
  intents : t.intents = s.intents ++ [row.toPublicationIntent]
  mem : row ∈ t.publications.rows
  /-- An attempt for every inbox of the actor that the intent names. -/
  queue : ∃ new, t.queue.attempts.rows = s.queue.attempts.rows ++ new ∧
    (∀ a ∈ new, a.publicationId = row.publicationId) ∧
    new.map (·.remoteInbox) = PublicationIntentStore.targets C row.toPublicationIntent s
  /-- No attempt was for this publication before. -/
  fresh : ∀ a ∈ s.queue.attempts.rows, a.publicationId ≠ row.publicationId

theorem intents_setStatus (intentId : String) (status : QueueingStatus) (t : PublicationTable) :
    (PublicationIntentStore.setStatus intentId status t).rows.map (·.toPublicationIntent) =
      t.rows.map (·.toPublicationIntent) := by
  rw [PublicationIntentStore.setStatus, List.map_map]
  refine List.map_congr_left fun row _ => ?_
  rw [Function.comp_apply]
  split <;> rfl

/-- **In a sound state an intent is refused, or stored and queued for every inbox.** -/
theorem accept_of_sound {C : FediverseConfig} {s : Federation} (h : FederationSound C s)
    (now : Time) (attrs : IntentAttrs) :
    (∃ e, PublicationIntentStore.accept C now attrs s = (.error e, s)) ∨
    ∃ row t, PublicationIntentStore.accept C now attrs s = (.ok row, t) ∧
      Stored C now attrs s row t := by
  unfold PublicationIntentStore.accept
  dsimp only
  iterate 3
    split
    · exact .inl ⟨_, rfl⟩
  next publications hinsert =>
  right
  have hrows := Table.rows_of_commit hinsert
  have hvalid := publications.valid.publicationId
  rw [hrows] at hvalid
  have hid : (PublicationIntentStore.rowOf C.toPlatform now attrs).publicationId =
      PublicationIntentStore.publicationId C.toPlatform attrs.intentId := rfl
  generalize hrow : PublicationIntentStore.rowOf C.toPlatform now attrs = row at *
  -- neither an accepted intent nor a name of its own has the new identifier
  have hfresh : ∀ a ∈ s.queue.attempts.rows, a.publicationId ≠ row.publicationId := by
    intro a ha hpub
    rcases h.attempts a ha with ⟨i, hi, heq⟩ | hown
    · obtain ⟨p, hp, rfl⟩ := List.mem_map.1 hi
      exact hvalid.ne_of_append p hp (heq.trans hpub)
    · rw [hpub, hid] at hown
      exact not_ownQueueName_publicationId _ _ hown
  have hrowId : row.publicationId =
      PublicationIntentStore.publicationId C.toPlatform row.intentId := by
    rw [← hrow]
    rfl
  have hinboxes : ∀ inbox ∈ PublicationIntentStore.targets C row.toPublicationIntent s,
      isBlank inbox = false ∧ fitsVarchar inbox = true := by
    intro inbox hinbox
    obtain ⟨f, hf, -, -, rfl⟩ := PublicationIntentStore.mem_inboxesOf.1 hinbox
    exact h.inboxes f hf
  obtain ⟨status, queue, new, heq, hqueue, hpubs, hboxes⟩ := PublicationIntentStore.fanOut_fresh
    now (s := { s with publications }) hrowId hinboxes hfresh
  refine ⟨_, _, heq, ?_⟩
  have hintents : publications.rows.map (·.toPublicationIntent) =
      s.intents ++ [row.toPublicationIntent] := by
    rw [hrows, List.map_append]
    rfl
  refine ⟨by rw [hrow], rfl, ?_, ?_, ⟨new, hqueue, hpubs, hboxes⟩, hfresh⟩
  · rw [Federation.intents, intents_setStatus, hintents]
  · refine List.mem_map.2 ⟨row, ?_, if_pos rfl⟩
    rw [hrows]
    exact List.mem_append_right _ (List.mem_singleton_self _)

theorem Stored.sound {C : FediverseConfig} {now : Time} {attrs : IntentAttrs} {s t : Federation}
    {row : PublicationRow} (h : Stored C now attrs s row t) (hs : FederationSound C s) :
    FederationSound C t := by
  obtain ⟨new, hqueue, hpubs, -⟩ := h.queue
  have hmem : row.toPublicationIntent ∈ t.intents := by
    rw [h.intents]
    exact List.mem_append_right _ (List.mem_singleton_self _)
  refine ⟨?_, ?_, ?_⟩
  · rw [h.frame]
    exact hs.inboxes
  · intro a ha
    rcases List.mem_append.1 (hqueue ▸ ha) with ha | ha
    · rcases hs.attempts a ha with ⟨i, hi, hpub⟩ | hown
      · refine .inl ⟨i, ?_, hpub⟩
        rw [h.intents]
        exact List.mem_append_left _ hi
      · exact .inr hown
    · exact .inl ⟨_, hmem, (hpubs a ha).symm⟩
  · intro i hi
    rw [h.intents] at hi
    rcases List.mem_append.1 hi with hi | hi
    · exact hs.ids i hi
    · obtain rfl := List.mem_singleton.1 hi
      rw [h.intent]
      rfl

/-! ### Publishing -/

/-- What an accepted request does: it passes the checks, and its intent is stored. -/
structure Created (C : FediverseConfig) (q : PublicationRequest) (s : Federation)
    (attrs : IntentAttrs) (handle : String) (row : PublicationRow) (t : Federation) : Prop where
  /-- The checks change the caches at most. -/
  stored : ∃ relay, PublicationIntentController.Authorized attrs handle { s with relay } ∧
    Stored C q.now attrs { s with relay } row t

/-- **In a sound state a request leaves the tables as they are, or its intent is stored.** -/
theorem create_of_sound {C : FediverseConfig} {s : Federation} (h : FederationSound C s)
    (q : PublicationRequest) :
    (∃ e relay, PublicationIntentController.create C q s = (.error e, { s with relay })) ∨
    ∃ attrs handle row t, PublicationIntentController.create C q s = (.ok row, t) ∧
      Created C q s attrs handle row t := by
  obtain ⟨relay, hrelay⟩ := PublicationIntentController.caching_authorize C q s
  have hsound : FederationSound C { s with relay } := h.of_eq rfl rfl rfl
  unfold PublicationIntentController.create
  rw [Checked.bind_apply]
  cases hauth : PublicationIntentController.authorize C q s with
  | mk r u =>
    rw [hauth] at hrelay
    dsimp only at hrelay
    subst hrelay
    cases r with
    | error e => exact .inl ⟨e, relay, rfl⟩
    | ok attrs =>
      obtain ⟨handle, hauthorized⟩ := PublicationIntentController.authorize_eq_ok hauth
      dsimp only [PublicationIntentController.acceptIntent]
      rcases accept_of_sound hsound q.now attrs with ⟨e, heq⟩ | ⟨row, t, heq, hstored⟩
      · rw [heq]
        cases e with
        | duplicate => exact .inl ⟨_, relay, rfl⟩
        | invalid => exact .inl ⟨_, relay, rfl⟩
        | raised => exact .inl ⟨_, relay, rfl⟩
      · rw [heq]
        exact .inr ⟨attrs, handle, row, t, rfl, ⟨relay, hauthorized, hstored⟩⟩

/-! ### Runs -/

theorem federationSound_empty (C : FediverseConfig) : FederationSound C .empty where
  inboxes := fun _ h => by cases h
  attempts := fun _ h => by cases h
  ids := fun _ h => by cases h

theorem FederationSound.step {C : FediverseConfig} {s : Federation} (h : FederationSound C s)
    (a : FederationStep) : FederationSound C (federationStep C s a) := by
  cases a with
  | identity relay => exact h.of_eq rfl rfl rfl
  | preference attrs => exact h.update attrs
  | deleteAccount now did baseUrl => exact h.delete now did baseUrl
  | inbox q =>
    obtain ⟨relay, heq | ⟨-, -, heffect⟩⟩ := ActivityPubController.inbox_cases C q s
    · rw [federationStep, heq]
      exact h.of_eq rfl rfl rfl
    · have hrelay : FederationSound C { s with relay } := h.of_eq rfl rfl rfl
      exact hrelay.effect heffect
  | publish q =>
    rw [federationStep]
    rcases create_of_sound h q with ⟨e, relay, heq⟩ | ⟨attrs, handle, row, t, heq, hcreated⟩
    · rw [heq]
      exact h.of_eq rfl rfl rfl
    · rw [heq]
      obtain ⟨relay, -, hstored⟩ := hcreated.stored
      have hrelay : FederationSound C { s with relay } := h.of_eq rfl rfl rfl
      exact hstored.sound hrelay
  | delivery a u => exact h.updateAttempt a u

/-- **The states of all runs are sound.** -/
theorem federationSound_exec (C : FediverseConfig) (as : List FederationStep) :
    FederationSound C (exec (federationStep C) .empty as) :=
  exec_invariant (I := FederationSound C) (fun _ a h => h.step a) (federationSound_empty C) as

/-- **In every run a request fails, or stores and queues its intent.** -/
theorem create_of_run (C : FediverseConfig) (as : List FederationStep) (q : PublicationRequest) :
    let s := exec (federationStep C) .empty as
    (∃ e relay, PublicationIntentController.create C q s = (.error e, { s with relay })) ∨
    ∃ attrs handle row t, PublicationIntentController.create C q s = (.ok row, t) ∧
      Created C q s attrs handle row t :=
  create_of_sound (federationSound_exec C as) q

/-! ### An author on the toy platform -/

def toyFediverse : FediverseConfig where
  toEnv := .toy
  phash2 := fun _ => 0

/-- The relay knows the author, whose account has the handle. -/
def toyAuthor (handle : String) : Relay :=
  { Relay.empty with
    didAccountCache := (Relay.empty.didAccountCache).insert "did:elix:a"
      { publicKeyHex := toyKeyHex 1, signingAlgorithm := "p256-sha256", keyVersion := 1, handle
        reputationTier := "verified_human", expiresAt := 1000 }
    verifiedDidCache := (Relay.empty.verifiedDidCache).insert "did:elix:a"
      { publicKeyHex := toyKeyHex 1, signingAlgorithm := "p256-sha256", keyVersion := 1
        nullifier := none, expiresAt := 1000 }
    handleIndex := Relay.empty.handleIndex.insert handle "did:elix:a" }

def toyConsent : FediversePreference where
  did := "did:elix:a"
  actor := ""
  enabled := true
  defaultNoteVisibility := .isPublic
  allowRemoteFollowers := true
  domainPolicy := .anyDomain
  allowedDomains := []
  blockedDomains := []
  blockedActors := []
  revision := 1

/-- A request of the author, signed. -/
def toyIntent (now : Time) (intentId contentItemId action : String) : PublicationRequest :=
  let payload := Json.obj [("type", .str "note"), ("body", .str "hello")]
  let hash := String.ofList (encode16 (toyHash (AppView.canonicalJson payload).utf8))
  let fields := [("intent_id", .str intentId), ("author_did", .str "did:elix:a"),
    ("content_item_id", .str contentItemId), ("action", .str action),
    ("visibility", .str "public"), ("payload", payload), ("payload_hash", .str hash),
    ("signature_scheme", .str "p256-sha256")]
  let message := PublicationIntentController.signingPayload (.obj fields) hash
  { now
    params := .obj (fields ++ [("signature", .str (toySign 1 message))])
    syncAuthorized := true }

end Ansible
