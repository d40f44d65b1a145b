import Ansible.Relay.Federation

/-!
# The inbox of an actor

Remote actors follow a local one, stop following it, and send public content.  The request has
been authenticated as coming from the actor that the activity names.

## Main definitions

* `InboundStore.record` — the log of public content.
* `Inbox.handle` — what an activity does.
* `ActivityPubController.inbox`, `ActivityPubController.admitted` — the endpoint.

## Main results

* `Inbox.handle_effect` — **what an activity writes.**
-/

namespace Ansible

inductive InboxBehavior
  | follow
  | unfollow
  | externalContent
  | ignored
  deriving DecidableEq, Repr

inductive InboxReply
  | accepted (behavior : InboxBehavior)
  | dropped
  | blocked
  | remoteFollowsDisabled
  | unauthorized
  | notFound
  /-- The request fails with an exception. -/
  | raised
  deriving DecidableEq, Repr

/-- An activity that arrives at the inbox of `actor`.  `fetchActor` is what the servers of remote
actors answer, `verified` the verdict on the signature. -/
structure InboxRequest where
  now : Time
  baseUrl : String
  actor : String
  activity : Json
  fetchActor : String → Option Json
  verified : Bool

namespace InboundStore

def recipients (j : Json) : List Json :=
  Reputation.wrap (j.fetch "to") ++ Reputation.wrap (j.fetch "cc")

def publicNote (activity object : Json) : Bool :=
  object.isObj && (object.fetch "type").eqv (.str "Note") &&
    (recipients activity ++ recipients object).any
      (·.eqv (.str ActivityBuilder.publicCollection))

def objectId (object : Json) : Json := if object.isObj then object.fetch "id" else object

def isHttpsUri (s : String) : Bool := (Uri.httpsHost s).isSome

/-- The row of a public activity; its `id` is given to it by the table. -/
def normalize (now : Time) (localActor type : String) (activity : Json) :
    Option InboundActivity :=
  let object := activity.fetch "object"
  match activity.fetch "id", activity.fetch "actor", objectId object with
  | .str activityId, .str remoteActor, .str object_id =>
    if isHttpsUri activityId && isHttpsUri remoteActor &&
        (type == "Delete" || publicNote activity object) &&
        (type == "Delete" || (object.fetch "attributedTo").eqv (.str remoteActor)) &&
        object_id ≠ "" then
      some { id := 0, activityId, localActor, remoteActor, activityType := type
             objectId := if isBlank object_id then none else some object_id
             payload := activity, receivedAt := now }
    else none
  | _, _, _ => none

/-- An activity whose `id` is known leaves the log as it is. -/
def record (now : Time) (localActor type : String) (activity : Json) (s : Federation) :
    InboxReply × Federation :=
  match normalize now localActor type activity with
  | none => (.dropped, s)
  | some row =>
    if [row.activityId, row.localActor, row.remoteActor].any isBlank then (.dropped, s)
    else if !([row.activityId, row.localActor, row.remoteActor] ++ row.objectId.toList).all
        fitsVarchar then (.raised, s)
    else
      match s.inbound.insert { row with id := s.nextInboundId } with
      | none => (.accepted .externalContent, { s with nextInboundId := s.nextInboundId + 1 })
      | some inbound =>
        (.accepted .externalContent, { s with inbound, nextInboundId := s.nextInboundId + 1 })

/-- The activities behind a cursor, and the cursor after them. -/
def delta (cursor limit : ℕ) (t : InboundTable) : List InboundActivity × ℕ :=
  let rows := (t.rows.filter fun a => decide (cursor < a.id)).take limit
  (rows, (rows.getLast?.map (·.id)).getD cursor)

end InboundStore

namespace Inbox

/-- `get_in(document, ["endpoints", "sharedInbox"])` -/
def sharedInbox (document : Json) : Except InboxReply Json :=
  match document.fetch "endpoints" with
  | .obj fields => .ok ((Json.obj fields).fetch "sharedInbox")
  | .null => .ok .null
  | _ => .error .raised

/-- The inbox that the document of a remote actor names. -/
def remoteInbox (fetchActor : String → Option Json) (remoteActor : String) :
    Except InboxReply String :=
  if !(chars "https://").isPrefixOf (chars remoteActor) then .error .dropped
  else
    match fetchActor remoteActor with
    | some (.obj fields) => do
      let document := Json.obj fields
      let inbox ←
        if ((document.fetch "inbox").orElse .null).isNull then sharedInbox document
        else .ok (document.fetch "inbox")
      match inbox with
      | .str inbox => if inbox = "" then .error .dropped else .ok inbox
      | _ => .error .dropped
    | _ => .error .dropped

/-- The id of a follow, where it can be stored: a text, or nothing. -/
def castId : Json → Option (Option String)
  | .null => some none
  | .str s => some (if isBlank s then none else some s)
  | _ => none

/-- `none` stands for a value that its column cannot hold. -/
def upsertFollower (actor remoteActor inbox : String) (followId : Json) (t : FollowerTable) :
    Option FollowerTable :=
  match castId followId with
  | none => some t
  | some followActivityId =>
    if [actor, remoteActor, inbox].any isBlank then some t
    else if !([actor, remoteActor, inbox] ++ followActivityId.toList).all fitsVarchar then none
    else
      t.upsert (fun f => f.actor == actor && f.remoteActor == remoteActor)
        { actor, remoteActor, remoteInbox := inbox, followActivityId }
        fun f => { f with remoteInbox := inbox, followActivityId }

/-- The acceptance of a follow rides on the delivery queue. -/
def enqueueAccept (C : FediverseConfig) (q : InboxRequest) (inbox : String)
    (queue : DeliveryQueue) : Except EnqueueError DeliveryAttempt × DeliveryQueue :=
  let actorUri := Actor.actorUrl q.actor q.baseUrl
  let acceptId := actorUri ++ "#accepts/" ++ String.ofList (Nat.toDigits 10
    (C.phash2 ((q.activity.fetch "id").orElse q.activity)))
  let accept := Json.obj [("@context", .str "https://www.w3.org/ns/activitystreams"),
    ("id", .str acceptId), ("type", .str "Accept"), ("actor", .str actorUri),
    ("object", q.activity)]
  DeliveryQueue.insertAttempt q.now ("ap-accept:" ++ acceptId) inbox accept queue

def follow (C : FediverseConfig) (policy : String → String → Bool) (q : InboxRequest)
    (s : Federation) : InboxReply × Federation :=
  match q.activity.fetch "actor" with
  | .str remoteActor =>
    if remoteActor = "" then (.dropped, s)
    else
      match remoteInbox q.fetchActor remoteActor with
      | .error e => (e, s)
      | .ok inbox =>
        if !policy remoteActor inbox then (.blocked, s)
        else
          match upsertFollower q.actor remoteActor inbox (q.activity.fetch "id") s.followers with
          | none => (.raised, s)
          | some followers =>
            match enqueueAccept C q inbox s.queue with
            | (.error .raised, queue) => (.raised, { s with followers, queue })
            | (_, queue) => (.accepted .follow, { s with followers, queue })
  | _ => (.dropped, s)

def namesFollow (object : Json) : Bool :=
  object.isObj && (object.fetch "type").eqv (.str "Follow")

/-- The actor that the inner follow names no longer follows. -/
def undoFollow (q : InboxRequest) (follow : Json) (s : Federation) : InboxReply × Federation :=
  match follow.fetch "actor" with
  | .str remoteActor =>
    if remoteActor = "" then (.dropped, s)
    else
      (.accepted .unfollow, { s with
        followers := s.followers.remove fun f =>
          f.actor == q.actor && f.remoteActor == remoteActor })
  | _ => (.dropped, s)

def handle (C : FediverseConfig) (policy : String → String → Bool) (q : InboxRequest)
    (s : Federation) : InboxReply × Federation :=
  if !q.activity.isObj then (.dropped, s)
  else
    match q.activity.fetch "type" with
    | .str type =>
      let object := q.activity.fetch "object"
      if type = "Follow" then follow C policy q s
      else if type = "Undo" ∧ namesFollow object = true then
        undoFollow q object s
      else if type ∈ ["Create", "Update", "Delete"] then
        InboundStore.record q.now q.actor type q.activity s
      else (.accepted .ignored, s)
    | _ => (.accepted .ignored, s)

end Inbox

namespace ActivityPubController

def inbox (C : FediverseConfig) (q : InboxRequest) (s : Federation) : InboxReply × Federation :=
  match s.enabledActor q.actor with
  | (none, s) => (.notFound, s)
  | (some _, s) =>
    match FediversePreferences.getByActor q.actor s.preferences with
    | none => (.notFound, s)
    | some p =>
      if !p.allowRemoteFollowers then (.remoteFollowsDisabled, s)
      else
        match q.activity.fetch "actor" with
        | .str remoteActor =>
          if !FediversePreferences.allowedRemote C.blockedDomains (some p) remoteActor none then
            (.blocked, s)
          else if !q.verified then (.unauthorized, s)
          else
            Inbox.handle C (fun remoteActor inbox => FediversePreferences.allowedRemote
              C.blockedDomains (some p) remoteActor (some inbox)) q s
        | .bool false => (.blocked, s)
        | _ => (.notFound, s)

/-- The requests that the endpoint passes on. -/
def admitted (C : FediverseConfig) (q : InboxRequest) (s : Federation) : Bool :=
  (s.enabledActor q.actor).1.isSome &&
    match FediversePreferences.getByActor q.actor s.preferences, q.activity.fetch "actor" with
    | some p, .str remoteActor => p.allowRemoteFollowers &&
        FediversePreferences.allowedRemote C.blockedDomains (some p) remoteActor none && q.verified
    | _, _ => false

end ActivityPubController

/-! ### What an activity writes -/

namespace InboundStore

theorem normalize_eq_some {now : Time} {localActor type : String} {activity : Json}
    {row : InboundActivity} (h : normalize now localActor type activity = some row) :
    activity.fetch "actor" = .str row.remoteActor ∧ row.activityType = type ∧
      row.payload = activity := by
  unfold normalize at h
  dsimp only at h
  split at h
  · next activityId remoteActor objectId _ hactor _ =>
    split at h
    · cases h
      exact ⟨hactor, rfl, rfl⟩
    · cases h
  · cases h

/-- Nothing but the sequence changes, or a row of the sender is added. -/
theorem record_cases (now : Time) (localActor type : String) (activity : Json) (s : Federation) :
    (∃ n, (record now localActor type activity s).2 = { s with nextInboundId := n }) ∨
    ∃ row inbound n, (record now localActor type activity s).2 =
        { s with inbound, nextInboundId := n } ∧
      inbound.rows = s.inbound.rows ++ [row] ∧ row.id = s.nextInboundId ∧
      activity.fetch "actor" = .str row.remoteActor ∧ row.activityType = type ∧
      row.payload = activity := by
  unfold record
  split
  · exact .inl ⟨_, rfl⟩
  next row hrow =>
  split
  · exact .inl ⟨_, rfl⟩
  split
  · exact .inl ⟨_, rfl⟩
  split
  · exact .inl ⟨_, rfl⟩
  next inbound hinbound =>
  obtain ⟨hactor, htype, hpayload⟩ := normalize_eq_some hrow
  exact .inr ⟨_, inbound, _, rfl, Table.rows_of_commit hinbound, rfl, hactor, htype, hpayload⟩

end InboundStore

namespace Inbox

/-- The followers after a follow: those of before, and the new one in its place. -/
theorem upsertFollower_cases {actor remoteActor inbox : String} {followId : Json}
    {t t' : FollowerTable} (h : upsertFollower actor remoteActor inbox followId t = some t') :
    t' = t ∨ (isBlank inbox = false ∧ fitsVarchar inbox = true ∧ ∃ followActivityId,
      t.upsert (fun f => f.actor == actor && f.remoteActor == remoteActor)
        { actor, remoteActor, remoteInbox := inbox, followActivityId }
        (fun f => { f with remoteInbox := inbox, followActivityId }) = some t') := by
  unfold upsertFollower at h
  split at h
  · exact .inl (Option.some.inj h).symm
  next followActivityId _ =>
  split at h
  · exact .inl (Option.some.inj h).symm
  next hblank =>
  split at h
  · cases h
  next hfits =>
  refine .inr ⟨?_, ?_, followActivityId, h⟩
  · simp only [List.any_cons, List.any_nil, Bool.or_false, Bool.or_eq_true, not_or,
      Bool.not_eq_true] at hblank
    exact hblank.2.2
  · simp only [List.cons_append, List.nil_append, List.all_cons, Bool.and_eq_true,
      Bool.not_eq_eq_eq_not, Bool.not_true, Bool.not_eq_false] at hfits
    exact hfits.2.2.1

/-- The effect of an activity on the state. -/
inductive Effect (C : FediverseConfig) (q : InboxRequest) (s : Federation) : Federation → Prop
  | nothing : Effect C q s s
  | follow {remoteActor inbox : String} {followers : FollowerTable} :
    q.activity.fetch "actor" = .str remoteActor →
    upsertFollower q.actor remoteActor inbox (q.activity.fetch "id") s.followers
      = some followers →
    Effect C q s { s with followers, queue := (enqueueAccept C q inbox s.queue).2 }
  | unfollow {remoteActor : String} : q.activity.fetch "type" = .str "Undo" →
    namesFollow (q.activity.fetch "object") = true →
    (q.activity.fetch "object").fetch "actor" = .str remoteActor → remoteActor ≠ "" →
    Effect C q s { s with followers := s.followers.remove fun f =>
      f.actor == q.actor && f.remoteActor == remoteActor }
  | record {type : String} : q.activity.fetch "type" = .str type →
    Effect C q s (InboundStore.record q.now q.actor type q.activity s).2

theorem follow_effect (C : FediverseConfig) (policy : String → String → Bool) (q : InboxRequest)
    (s : Federation) : Effect C q s (follow C policy q s).2 := by
  unfold follow
  split
  swap
  · exact .nothing
  next remoteActor hactor =>
  split
  · exact .nothing
  split
  · exact .nothing
  next inbox _ =>
  split
  · exact .nothing
  split
  · exact .nothing
  next followers hfollowers =>
  have heffect := Effect.follow (C := C) hactor hfollowers
  generalize enqueueAccept C q inbox s.queue = r at heffect
  obtain ⟨r, queue⟩ := r
  split
  · next heq =>
    cases heq
    exact heffect
  · next heq =>
    cases heq
    exact heffect

/-- **What an activity writes.** -/
theorem handle_effect (C : FediverseConfig) (policy : String → String → Bool) (q : InboxRequest)
    (s : Federation) : Effect C q s (handle C policy q s).2 := by
  unfold handle
  split
  · exact .nothing
  split
  swap
  · exact .nothing
  next type htype =>
  dsimp only
  split
  · exact follow_effect C policy q s
  split
  · next hundo =>
    obtain ⟨rfl, hfollow⟩ := hundo
    unfold undoFollow
    split
    · next remoteActor hactor =>
      split
      · exact .nothing
      · next hne => exact .unfollow htype hfollow hactor hne
    · exact .nothing
  split
  · exact .record htype
  · exact .nothing

/-- A retraction of a follow takes away the edge that the follow names. -/
theorem handle_undo {C : FediverseConfig} {policy : String → String → Bool} {q : InboxRequest}
    {s : Federation} {remoteActor : String} (htype : q.activity.fetch "type" = .str "Undo")
    (hfollow : namesFollow (q.activity.fetch "object") = true)
    (hactor : (q.activity.fetch "object").fetch "actor" = .str remoteActor)
    (hne : remoteActor ≠ "") :
    (handle C policy q s).2 = { s with followers := s.followers.remove fun f =>
      f.actor == q.actor && f.remoteActor == remoteActor } := by
  have hobj : q.activity.isObj = true := by
    cases hq : q.activity with
    | obj fields => rfl
    | _ => rw [hq] at htype; cases htype
  rw [handle, hobj, htype]
  dsimp only [Bool.not_true]
  rw [if_neg (by decide), if_neg (by decide), if_pos ⟨rfl, hfollow⟩, undoFollow, hactor]
  dsimp only
  rw [if_neg hne]

end Inbox

namespace ActivityPubController

/-- The endpoint looks up the account, and passes on a request that it admits. -/
theorem inbox_admitted (C : FediverseConfig) (q : InboxRequest) (s : Federation) :
    ∃ relay, (admitted C q s = false ∧ (inbox C q s).2 = { s with relay }) ∨
      (admitted C q s = true ∧ q.verified = true ∧
        (∃ remoteActor, q.activity.fetch "actor" = .str remoteActor) ∧
        ∃ policy, (inbox C q s).2 = (Inbox.handle C policy q { s with relay }).2) := by
  refine ⟨(s.enabledActor q.actor).2.relay, ?_⟩
  have henabled := Federation.enabledActor_eq q.actor s
  unfold inbox admitted
  generalize s.enabledActor q.actor = r at henabled
  obtain ⟨_ | did, t⟩ := r
  · exact .inl ⟨rfl, henabled⟩
  dsimp only at henabled ⊢
  rw [henabled]
  dsimp only
  cases FediversePreferences.getByActor q.actor s.preferences with
  | none => exact .inl ⟨rfl, rfl⟩
  | some p =>
    dsimp only
    cases hopen : p.allowRemoteFollowers with
    | false =>
      refine .inl ⟨?_, rfl⟩
      cases q.activity.fetch "actor" <;> simp [hopen]
    | true =>
      cases hactor : q.activity.fetch "actor" with
      | str remoteActor =>
        dsimp only
        cases FediversePreferences.allowedRemote C.blockedDomains (some p) remoteActor none with
        | false => exact .inl ⟨by simp, rfl⟩
        | true =>
          cases hverified : q.verified with
          | false => exact .inl ⟨by simp, rfl⟩
          | true => exact .inr ⟨by simp [hopen], rfl, ⟨remoteActor, rfl⟩, _, rfl⟩
      | bool b => cases b <;> exact .inl ⟨rfl, rfl⟩
      | _ => exact .inl ⟨rfl, rfl⟩

/-- What a request writes beside the caches, it writes as one that is verified. -/
theorem inbox_cases (C : FediverseConfig) (q : InboxRequest)
    (s : Federation) : ∃ relay, (inbox C q s).2 = { s with relay } ∨
      (q.verified = true ∧ (∃ remoteActor, q.activity.fetch "actor" = .str remoteActor) ∧
        Inbox.Effect C q { s with relay } (inbox C q s).2) := by
  obtain ⟨relay, ⟨-, heq⟩ | ⟨-, hverified, hactor, policy, heq⟩⟩ := inbox_admitted C q s
  · exact ⟨relay, .inl heq⟩
  · refine ⟨relay, .inr ⟨hverified, hactor, ?_⟩⟩
    rw [heq]
    exact Inbox.handle_effect C policy q _

end ActivityPubController

end Ansible
