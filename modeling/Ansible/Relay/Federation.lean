import Ansible.Relay.DeliveryQueue
import Ansible.Relay.FediversePreferences
import Ansible.Relay.Reputation

/-!
# The federation state of a relay

Local accounts appear in the fediverse as actors.  The relay keeps, beside the accounts, who
follows an actor, what remote actors sent, what local authors publish, and what is to be
delivered.

## Main definitions

* `ActivityPubFollower`, `InboundActivity`, `PublicationRow` — the rows.
* `Federation` — the whole state.
-/

namespace Ansible

/-- A row of `activity_pub_followers`. -/
structure ActivityPubFollower where
  actor : String
  remoteActor : String
  remoteInbox : String
  followActivityId : Option String

abbrev FollowerTable := Table ActivityPubFollower
  (UniqueOn (fun f => (f.actor, f.remoteActor)) fun _ => true)

/-- A row of `activity_pub_inbound_activities`. -/
structure InboundActivity where
  id : ℕ
  activityId : String
  localActor : String
  remoteActor : String
  activityType : String
  objectId : Option String
  payload : Json
  receivedAt : Time

abbrev InboundTable := Table InboundActivity (UniqueOn (·.activityId) fun _ => true)

inductive QueueingStatus
  | queued
  | awaitingFollowers
  | enqueueFailed
  deriving DecidableEq, Repr

/-- A row of `publication_intents`. -/
structure PublicationRow extends PublicationIntent where
  deliveryStatus : QueueingStatus

structure PublicationIndexes (rows : List PublicationRow) : Prop where
  publicationId : UniqueOn (·.publicationId) (fun _ => true) rows
  intentId : UniqueOn (·.intentId) (fun _ => true) rows

instance : DecidablePred PublicationIndexes := fun rows =>
  decidable_of_iff (UniqueOn (fun p : PublicationRow => p.publicationId) (fun _ => true) rows ∧
    UniqueOn (fun p : PublicationRow => p.intentId) (fun _ => true) rows)
    ⟨fun h => ⟨h.1, h.2⟩, fun h => ⟨h.1, h.2⟩⟩

abbrev PublicationTable := Table PublicationRow PublicationIndexes

/-- The settings of a relay that takes part in the fediverse. -/
structure FediverseConfig extends Env where
  /-- `platform_blocked_domains/0` -/
  blockedDomains : List String := []
  allowDevPublicationSignatures : Bool := false
  /-- `:erlang.phash2` -/
  phash2 : Json → ℕ

structure Federation where
  relay : Relay
  preferences : PreferenceTable
  followers : FollowerTable
  inbound : InboundTable
  nextInboundId : ℕ
  publications : PublicationTable
  queue : DeliveryQueue

namespace Federation

def empty : Federation where
  relay := .empty
  preferences := ⟨[], by decide⟩
  followers := ⟨[], by decide⟩
  inbound := ⟨[], by decide⟩
  nextInboundId := 1
  publications := ⟨[], by decide⟩
  queue := .empty

/-- `Inbox.followers`: the followers of an actor, by name. -/
def followersOf (actor : String) (s : Federation) : List ActivityPubFollower :=
  (s.followers.rows.filter (·.actor == actor)).insertionSort fun a b =>
    bytes a.remoteActor ≤ bytes b.remoteActor

/-- The tier of an account, as the cache has it. -/
def reputationTier (did : String) (r : Relay) : String × Relay :=
  match DidAccountCache.get did r with
  | (some entry, r) => (entry.reputationTier, r)
  | (none, r) => ("basic", r)

/-- The DID behind the name of an actor: its account has the tier and has consented. -/
def enabledActor (handle : String) (s : Federation) : Option String × Federation :=
  match DidAccountCache.getByHandle handle s.relay with
  | (none, r) => (none, { s with relay := r })
  | (some did, r) =>
    let (tier, r) := reputationTier did r
    (if ReputationTier.meets tier "verified_human" &&
        FediversePreferences.enabledActor handle s.preferences then some did else none,
      { s with relay := r })

/-- `known_actor`: the DID whose actor document is served under the name. -/
def knownActor (handle : String) (s : Federation) : Option String :=
  match FediversePreferences.getByActor handle s.preferences with
  | none => none
  | some p =>
    match (DidAccountCache.get p.did s.relay).1 with
    | some entry => if entry.handle = handle then some p.did else none
    | none => none

@[simp] theorem mem_followersOf {actor : String} {s : Federation} {f : ActivityPubFollower} :
    f ∈ s.followersOf actor ↔ f ∈ s.followers.rows ∧ f.actor = actor := by
  rw [followersOf, List.mem_insertionSort, List.mem_filter, beq_iff_eq]

theorem enabledActor_eq (handle : String) (s : Federation) :
    (enabledActor handle s).2 = { s with relay := (enabledActor handle s).2.relay } := by
  unfold enabledActor
  split <;> rfl

end Federation

end Ansible
