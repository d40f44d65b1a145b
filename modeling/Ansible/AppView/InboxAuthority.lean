import Ansible.AppView.ExternalIngest
import Ansible.Relay.FederationRun

/-!
# Who changes what belongs to a remote actor

A remote actor has edges to the local actors that it follows, activities in the inbox log of the
relay, and content in the feed of the AppView, which reads the log page by page.  A request to an
inbox is authenticated as the actor that its activity names.

## Main definitions

* `InboxSystem`, `inboxStep` — the relay and the AppView behind it.
* `UndoesOwn` — the retraction of a follow names its sender, or nobody who follows.

## Main results

* `log_authentic` — **every activity of the log came with an authenticated request.**
* `inbox_authority` — **a run respects the authority of remote actors exactly when every
  retraction of a follow is one's own.**
-/

namespace Ansible

open AppView

def InboxRequest.AuthenticatedAs (q : InboxRequest) (actor : String) : Prop :=
  q.verified = true ∧ q.activity.fetch "actor" = .str actor

/-- A relay, and an AppView that shows the content of chosen remote actors. -/
structure InboxSystem where
  relay : Federation
  sources : List ExternalSource
  feed : ExternalTable
  cursor : ℕ

inductive InboxStep
  | relay (a : FederationStep)
  /-- An administrator changes the sources. -/
  | curate (sources : List ExternalSource)
  /-- A page of the inbox log is read. -/
  | poll (now : Time) (limit : ℕ)
  /-- The outbox of a source is read. -/
  | pull (now : Time) (actorUri : String) (rawItems : List Json)
  /-- An op of a local author comes to the feed. -/
  | native (r : ExternalRow)

namespace InboxSystem

def empty : InboxSystem where
  relay := .empty
  sources := []
  feed := ⟨[], by decide⟩
  cursor := 0

def page (limit : ℕ) (s : InboxSystem) : List InboundActivity :=
  (InboundStore.delta s.cursor limit s.relay.inbound).1

/-- The page is read again when one of its activities raises. -/
def poll (now : Time) (limit : ℕ) (s : InboxSystem) : InboxSystem :=
  let ingested := ExternalIngest.ingestAll now s.sources (s.page limit) s.feed
  { s with
    feed := ingested.1
    cursor := if ingested.2 then (InboundStore.delta s.cursor limit s.relay.inbound).2
      else s.cursor }

def pull (now : Time) (actorUri : String) (rawItems : List Json) (s : InboxSystem) : InboxSystem :=
  match s.sources.find? (·.actorUri == actorUri) with
  | some source => { s with feed := ExternalIngest.ingestSource now source rawItems s.feed }
  | none => s

def native (r : ExternalRow) (s : InboxSystem) : InboxSystem :=
  { s with feed := ExternalIngest.insertNew s.feed { r with
      source := "relay_firehose", externalActorUri := none, externalInstance := none
      complianceLevel := none } }

/-- The edges of a remote actor to those whom it follows. -/
def edgesOf (actor : String) (s : InboxSystem) : List ActivityPubFollower :=
  s.relay.followers.rows.filter (·.remoteActor == actor)

/-- The activities of a remote actor in the inbox log. -/
def logOf (actor : String) (s : InboxSystem) : List InboundActivity :=
  s.relay.inbound.rows.filter (·.remoteActor == actor)

end InboxSystem

def inboxStep (C : FediverseConfig) (s : InboxSystem) : InboxStep → InboxSystem
  | .relay a => { s with relay := federationStep C s.relay a }
  | .curate sources => { s with sources }
  | .poll now limit => s.poll now limit
  | .pull now actorUri rawItems => s.pull now actorUri rawItems
  | .native r => s.native r

/-- Two states agree on what belongs to a remote actor. -/
structure SameFor (actor : String) (s t : InboxSystem) : Prop where
  edges : t.edgesOf actor = s.edgesOf actor
  log : t.logOf actor = s.logOf actor
  content : t.feed.contentOf actor = s.feed.contentOf actor

/-- What the next step after `before` changes belongs to those who are authenticated: as the
sender of the request, by a request that brought an activity of the page, or as the server of
the outbox. -/
def Authority (C : FediverseConfig) (before : List InboxStep) (e : InboxStep) : Prop :=
  let s := exec (inboxStep C) .empty before
  match e with
  | .relay (.inbox q) => ∀ actor, ¬ q.AuthenticatedAs actor →
      SameFor actor s (inboxStep C s (.relay (.inbox q)))
  | .poll now limit => ∀ actor, SameFor actor s (s.poll now limit) ∨
      ∃ row ∈ s.page limit, ∃ q, .relay (.inbox q) ∈ before ∧ q.AuthenticatedAs actor ∧
        row.payload = q.activity
  | .pull now actorUri rawItems => ∀ actor, actor ≠ actorUri →
      SameFor actor s (s.pull now actorUri rawItems)
  | _ => True

/-- The retraction of a follow that is admitted names its sender, or an actor without an edge to
the owner of the inbox. -/
def UndoesOwn (C : FediverseConfig) (s : InboxSystem) : InboxStep → Prop
  | .relay (.inbox q) =>
    ActivityPubController.admitted C q s.relay = true →
    q.activity.fetch "type" = .str "Undo" →
    Inbox.namesFollow (q.activity.fetch "object") = true →
    ∀ actor, (q.activity.fetch "object").fetch "actor" = .str actor → actor ≠ "" →
      q.AuthenticatedAs actor ∨
        ∀ f ∈ s.relay.followers.rows, ¬ (f.actor = q.actor ∧ f.remoteActor = actor)
  | _ => True

/-! ### The inbox log -/

/-- Only the requests to inboxes write the log. -/
theorem inbound_step {C : FediverseConfig} {s : Federation} (h : FederationSound C s)
    (a : FederationStep) {row : InboundActivity}
    (hrow : row ∈ (federationStep C s a).inbound.rows) :
    row ∈ s.inbound.rows ∨
      ∃ q, a = .inbox q ∧ q.AuthenticatedAs row.remoteActor ∧ row.payload = q.activity := by
  by_cases hinbox : ∃ q, a = .inbox q
  · obtain ⟨q, rfl⟩ := hinbox
    rw [federationStep] at hrow
    obtain ⟨relay, heq | ⟨hverified, -, heffect⟩⟩ := ActivityPubController.inbox_cases C q s
    · rw [heq] at hrow
      exact .inl hrow
    generalize (ActivityPubController.inbox C q s).2 = t at heffect hrow
    cases heffect with
    | nothing => exact .inl hrow
    | follow _ _ => exact .inl hrow
    | unfollow _ _ _ _ => exact .inl hrow
    | record _ =>
      rcases InboundStore.record_cases q.now q.actor _ q.activity { s with relay } with
        ⟨n, heq⟩ | ⟨new, inbound, n, heq, hrows, -, hactor, -, hpayload⟩
      · rw [heq] at hrow
        exact .inl hrow
      · rw [heq] at hrow
        rcases List.mem_append.1 (hrows ▸ hrow) with hold | hnew
        · exact .inl hold
        · obtain rfl := List.mem_singleton.1 hnew
          exact .inr ⟨q, rfl, ⟨hverified, hactor⟩, hpayload⟩
  by_cases hpublish : ∃ q, a = .publish q
  · obtain ⟨q, rfl⟩ := hpublish
    rw [federationStep] at hrow
    rcases create_of_sound h q with ⟨e, relay, heq⟩ | ⟨attrs, handle, r, t, heq, hcreated⟩
    · rw [heq] at hrow
      exact .inl hrow
    · obtain ⟨relay, -, hstored⟩ := hcreated.stored
      rw [heq, hstored.frame] at hrow
      exact .inl hrow
  obtain ⟨relay, preferences, followers, queue, heq⟩ := local_step_frame C s
    (fun q hq => hinbox ⟨q, hq⟩) (fun q hq => hpublish ⟨q, hq⟩)
  rw [heq] at hrow
  exact .inl hrow

variable (C : FediverseConfig)

theorem federationSound_inboxStep (as : List InboxStep) :
    FederationSound C (exec (inboxStep C) .empty as).relay := by
  refine exec_invariant (I := fun s : InboxSystem => FederationSound C s.relay) (fun s e hs => ?_)
    (federationSound_empty C) as
  cases e with
  | relay a => exact hs.step a
  | curate sources => exact hs
  | poll now limit => exact hs
  | pull now actorUri rawItems =>
    rw [inboxStep, InboxSystem.pull]
    split <;> exact hs
  | native r => exact hs

theorem relay_inboxStep (s : InboxSystem) {e : InboxStep} (h : ∀ a, e ≠ .relay a) :
    (inboxStep C s e).relay = s.relay := by
  cases e with
  | relay a => exact absurd rfl (h a)
  | curate sources => rfl
  | poll now limit => rfl
  | pull now actorUri rawItems =>
    rw [inboxStep, InboxSystem.pull]
    split <;> rfl
  | native r => rfl

/-- **Every activity of the log came with a request that was authenticated as its sender.** -/
theorem log_authentic {as : List InboxStep} {row : InboundActivity}
    (hrow : row ∈ (exec (inboxStep C) .empty as).relay.inbound.rows) :
    ∃ q, .relay (.inbox q) ∈ as ∧ q.AuthenticatedAs row.remoteActor ∧
      row.payload = q.activity := by
  have hempty : row ∉ InboxSystem.empty.relay.inbound.rows := by
    intro hmem
    cases hmem
  obtain ⟨before, e, after, rfl, hnot, hmem⟩ :=
    exists_step_of_not (P := fun s : InboxSystem => row ∈ s.relay.inbound.rows) hempty hrow
  by_cases hrelay : ∃ a, e = .relay a
  · obtain ⟨a, rfl⟩ := hrelay
    rcases inbound_step (federationSound_inboxStep C before) a hmem with
      hold | ⟨q, rfl, hauth, hpayload⟩
    · exact absurd hold hnot
    · exact ⟨q, List.mem_append_right _ List.mem_cons_self, hauth, hpayload⟩
  · rw [relay_inboxStep C _ fun a ha => hrelay ⟨a, ha⟩] at hmem
    exact absurd hmem hnot

/-! ### Requests to inboxes -/

theorem SameFor.refl (actor : String) (s : InboxSystem) : SameFor actor s s := ⟨rfl, rfl, rfl⟩

/-- A follow changes the edges of the actor who follows. -/
theorem upsertFollower_edges {localActor remoteActor inbox actor : String} {followId : Json}
    {t t' : FollowerTable}
    (h : Inbox.upsertFollower localActor remoteActor inbox followId t = some t')
    (hne : remoteActor ≠ actor) :
    t'.rows.filter (·.remoteActor == actor) = t.rows.filter (·.remoteActor == actor) := by
  have hother : (remoteActor == actor) = false := beq_false_of_ne hne
  rcases Inbox.upsertFollower_cases h with rfl | ⟨-, -, followActivityId, hupsert⟩
  · rfl
  unfold Table.upsert at hupsert
  split at hupsert
  · rw [Table.rows_of_commit hupsert]
    refine filter_map_of_outside (fun f hf => ?_) t.rows
    rw [Bool.and_eq_true, beq_iff_eq, beq_iff_eq] at hf
    dsimp only
    rw [hf.2]
    exact ⟨hother, hother⟩
  · rw [Table.rows_of_commit hupsert, List.filter_append, List.filter_cons_of_neg (by simp [hne]),
      List.filter_nil, List.append_nil]

/-- The retraction of a follow changes the edges of the actor that it names. -/
theorem remove_edges {localActor remoteActor actor : String} {t : FollowerTable}
    (h : remoteActor ≠ actor ∨
      ∀ f ∈ t.rows, ¬ (f.actor = localActor ∧ f.remoteActor = remoteActor)) :
    (t.remove fun f => f.actor == localActor && f.remoteActor == remoteActor).rows.filter
      (·.remoteActor == actor) = t.rows.filter (·.remoteActor == actor) := by
  rw [Table.remove, List.filter_filter]
  refine List.filter_congr fun f hf => ?_
  rcases h with hne | hnone
  · by_cases hactor : f.remoteActor = actor
    · simp [hactor, hne.symm]
    · simp [hactor]
  · have hf := hnone f hf
    simp only [Bool.and_eq_left_iff_imp, Bool.not_eq_true', Bool.and_eq_false_imp, beq_iff_eq,
      beq_eq_false_iff_ne]
    intro _ hlocal hremote
    exact hf ⟨hlocal, hremote⟩

/-- **A request leaves alone what belongs to others, unless it retracts a follow of theirs.** -/
theorem sameFor_inbox {C : FediverseConfig} {s : InboxSystem} {q : InboxRequest}
    (h : UndoesOwn C s (.relay (.inbox q))) {actor : String} (hauth : ¬ q.AuthenticatedAs actor) :
    SameFor actor s (inboxStep C s (.relay (.inbox q))) := by
  suffices hrelay : (federationStep C s.relay (.inbox q)).followers.rows.filter
        (·.remoteActor == actor) = s.edgesOf actor ∧
      (federationStep C s.relay (.inbox q)).inbound.rows.filter (·.remoteActor == actor) =
        s.logOf actor from ⟨hrelay.1, hrelay.2, rfl⟩
  rw [federationStep]
  obtain ⟨relay, ⟨-, heq⟩ | ⟨hadmitted, hverified, -, policy, heq⟩⟩ :=
    ActivityPubController.inbox_admitted C q s.relay
  · rw [heq]
    exact ⟨rfl, rfl⟩
  have hothers : ∀ {remoteActor}, q.activity.fetch "actor" = .str remoteActor →
      remoteActor ≠ actor := by
    rintro remoteActor hsender rfl
    exact hauth ⟨hverified, hsender⟩
  have heffect := Inbox.handle_effect C policy q { s.relay with relay }
  rw [heq]
  generalize (Inbox.handle C policy q { s.relay with relay }).2 = t at heffect
  cases heffect with
  | nothing => exact ⟨rfl, rfl⟩
  | follow hsender hfollowers => exact ⟨upsertFollower_edges hfollowers (hothers hsender), rfl⟩
  | @unfollow remoteActor htype hfollow hinner hne =>
    refine ⟨remove_edges ?_, rfl⟩
    rcases h hadmitted htype hfollow remoteActor hinner hne with hown | hnone
    · exact .inl (hothers hown.2)
    · exact .inr hnone
  | record _ =>
    rcases InboundStore.record_cases q.now q.actor _ q.activity { s.relay with relay } with
      ⟨n, heq⟩ | ⟨new, inbound, n, heq, hrows, -, hsender, -⟩
    · rw [heq]
      exact ⟨rfl, rfl⟩
    · rw [heq]
      refine ⟨rfl, ?_⟩
      dsimp only
      rw [hrows, List.filter_append, List.filter_cons_of_neg (by simp [hothers hsender]),
        List.filter_nil, List.append_nil]
      rfl

/-- A request that leaves alone what belongs to others retracts no follow of theirs. -/
theorem undoesOwn_of_sameFor {C : FediverseConfig} {s : InboxSystem} {q : InboxRequest}
    (h : ∀ actor, ¬ q.AuthenticatedAs actor → SameFor actor s (inboxStep C s (.relay (.inbox q)))) :
    UndoesOwn C s (.relay (.inbox q)) := by
  intro hadmitted htype hfollow actor hinner hne
  by_cases hauth : q.AuthenticatedAs actor
  · exact .inl hauth
  refine .inr fun f hf hedge => ?_
  have hedges := (h actor hauth).edges
  obtain ⟨relay, ⟨hnot, -⟩ | ⟨-, -, -, policy, heq⟩⟩ :=
    ActivityPubController.inbox_admitted C q s.relay
  · rw [hadmitted] at hnot
    cases hnot
  rw [Inbox.handle_undo htype hfollow hinner hne] at heq
  rw [InboxSystem.edgesOf, inboxStep, federationStep, heq] at hedges
  have hmem : f ∈ s.edgesOf actor := List.mem_filter.2 ⟨hf, beq_iff_eq.2 hedge.2⟩
  rw [← hedges] at hmem
  have hkept := (List.mem_filter.1 (List.mem_filter.1 hmem).1).2
  simp [hedge.1, hedge.2] at hkept

/-! ### The AppView -/

theorem authority_poll (before : List InboxStep) (now : Time) (limit : ℕ) :
    Authority C before (.poll now limit) := by
  intro actor
  generalize hs : exec (inboxStep C) .empty before = s
  by_cases hpage : ∃ row ∈ s.page limit, row.remoteActor = actor
  · obtain ⟨row, hrow, rfl⟩ := hpage
    have hlog : row ∈ (exec (inboxStep C) .empty before).relay.inbound.rows :=
      hs ▸ List.mem_of_mem_filter (List.mem_of_mem_take hrow)
    obtain ⟨q, hq, hauth, hpayload⟩ := log_authentic C hlog
    exact .inr ⟨row, hrow, q, hq, hauth, hpayload⟩
  · have hothers : ∀ row ∈ s.page limit, row.remoteActor ≠ actor :=
      fun row hrow heq => hpage ⟨row, hrow, heq⟩
    exact .inl ⟨rfl, rfl, ExternalIngest.ingestAll_content hothers⟩

theorem authority_pull (before : List InboxStep) (now : Time) (actorUri : String)
    (rawItems : List Json) : Authority C before (.pull now actorUri rawItems) := by
  intro actor hne
  generalize exec (inboxStep C) .empty before = s
  unfold InboxSystem.pull
  split
  · next source hfind =>
    have hfound := List.find?_some hfind
    have hsource : source.actorUri = actorUri := beq_iff_eq.1 hfound
    exact ⟨rfl, rfl, ExternalIngest.ingestSource_content (hsource ▸ hne.symm)⟩
  · exact SameFor.refl actor s

/-- **A run respects the authority of remote actors exactly when every retraction of a follow is
one's own.**  Of all steps only a signed request can fail, and of those only an `Undo`, whose
inner actor is not compared with the sender. -/
theorem inbox_authority (C : FediverseConfig) (as : List InboxStep) :
    (∀ before e after, as = before ++ e :: after → Authority C before e) ↔
      Along (inboxStep C) (UndoesOwn C) .empty as := by
  rw [along_iff_split]
  have hplace : ∀ before e, Authority C before e ↔
      UndoesOwn C (exec (inboxStep C) .empty before) e := by
    intro before e
    cases e with
    | relay a =>
      cases a with
      | inbox q => exact ⟨undoesOwn_of_sameFor, fun h actor hauth => sameFor_inbox h hauth⟩
      | _ => exact Iff.rfl
    | poll now limit => exact ⟨fun _ => trivial, fun _ => authority_poll C before now limit⟩
    | pull now actorUri rawItems =>
      exact ⟨fun _ => trivial, fun _ => authority_pull C before now actorUri rawItems⟩
    | curate sources => exact Iff.rfl
    | native r => exact Iff.rfl
  exact forall_congr' fun before => forall_congr' fun e => forall_congr' fun after =>
    imp_congr_right fun _ => hplace before e

/-! ### A retraction by another actor -/

def toyBob : String := "https://b.example/bob"

def toyMallory : String := "https://m.example/mallory"

/-- A verified request to the inbox of the author. -/
def toyRequest (activity : Json) : InboxRequest where
  now := 1
  baseUrl := "https://relay.example"
  actor := "alice"
  activity
  fetchActor := fun _ => some (.obj [("inbox", .str "https://b.example/inbox")])
  verified := true

def toyFollow : Json :=
  .obj [("id", .str "https://b.example/1"), ("type", .str "Follow"), ("actor", .str toyBob)]

/-- Bob follows the author; Mallory retracts it. -/
def toyForeignUndo : List InboxStep :=
  [.relay (.identity (toyAuthor "alice")), .relay (.preference toyConsent),
    .relay (.inbox (toyRequest toyFollow)),
    .relay (.inbox (toyRequest (.obj
      [("type", .str "Undo"), ("actor", .str toyMallory), ("object", toyFollow)])))]

/-- Bob loses the edge. -/
theorem foreign_undo_removes_edge : ¬ ∀ before e after, toyForeignUndo = before ++ e :: after →
    Authority toyFediverse before e := by
  intro hall
  have hlost := hall (toyForeignUndo.take 3) _ [] rfl toyBob (fun hauth => by
    have hsender := Json.str.inj hauth.2
    exact absurd hsender (by decide))
  have hedges := congrArg List.length hlost.edges
  have hbefore : ((exec (inboxStep toyFediverse) .empty (toyForeignUndo.take 3)).edgesOf
      toyBob).length = 1 := by decide +kernel
  have hafter : ((exec (inboxStep toyFediverse) .empty toyForeignUndo).edgesOf toyBob).length
      = 0 := by decide +kernel
  rw [hbefore] at hedges
  exact absurd (hafter.symm.trans hedges) (by decide)

end Ansible
