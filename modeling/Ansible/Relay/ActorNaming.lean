import Ansible.Relay.FederationRun
import Ansible.Relay.IdentityV2

/-!
# The names of actors

The actor of an account is found under the handle of the account.  The builder of activities
gives it a slug of the handle for a name, and looks for followers and for the preference there.

## Main definitions

* `NamedAs` — an accepted intent is one of the actor with the handle: it is in its outbox, and
  queued once for every inbox of the followers that the preference allows.
* `NamingLaw` — two accepted intents are named as their handles, and different handles give
  different names.

## Main results

* `actor_naming` — **names agree exactly for handles that are their own slugs.**
-/

namespace Ansible

open PublicationIntentStore

def accountHandle (did : String) (s : Federation) : Option String :=
  (DidAccountCache.get did s.relay).1.map (·.handle)

def attemptsFor (publicationId inbox : String) (s : Federation) : ℕ :=
  s.queue.attempts.rows.countP fun a => a.publicationId == publicationId && a.remoteInbox == inbox

/-- The intent, accepted with the state `t` as result, is one of the actor with the handle. -/
structure NamedAs (C : FediverseConfig) (handle : String) (row : PublicationRow)
    (t : Federation) : Prop where
  name : ActivityBuilder.actorName row.toPublicationIntent = handle
  preference : ∀ p, FediversePreferences.getByDid row.authorDid t.preferences = some p →
    p.actor = ActivityBuilder.actorName row.toPublicationIntent
  document : t.knownActor (ActivityBuilder.actorName row.toPublicationIntent) =
    some row.authorDid
  outbox : row ∈ listForActor handle t
  /-- One attempt for every inbox of the followers that the author's preference allows. -/
  deliveries : ∀ inbox, attemptsFor row.publicationId inbox t =
    if inbox ∈ inboxesOf C (FediversePreferences.getByDid row.authorDid t.preferences) handle t
    then 1 else 0

/-- An intent for one handle and an intent for another. -/
structure NamingLaw (C : FediverseConfig) (handle handle' : String) (row row' : PublicationRow)
    (t t' : Federation) : Prop where
  first : NamedAs C handle row t
  second : NamedAs C handle' row' t'
  injective : handle ≠ handle' → ActivityBuilder.actorName row.toPublicationIntent ≠
    ActivityBuilder.actorName row'.toPublicationIntent

/-- The handle is its own slug, and the preference of the account is stored under it. -/
def OwnName (s : Federation) (did handle : String) : Prop :=
  Plain (chars handle) ∧
    ∃ p, FediversePreferences.getByDid did s.preferences = some p ∧ p.actor = handle

/-! ### Slugs of handles -/

theorem slug_eq_iff (value : String) : ActivityBuilder.slug value = value ↔
    Plain (chars value) := by
  rw [← slugOr_eq_iff (by decide +kernel : Plain "actor".toList), ActivityBuilder.slug]
  constructor
  · intro h
    have hchars := congrArg chars h
    rwa [chars_ofList] at hchars
  · intro h
    rw [h, ofList_chars]

theorem actorName_of_actor {i : PublicationIntent} {handle : String}
    (h : i.payload.fetch "actor" = .str handle) (hne : handle ≠ "") :
    ActivityBuilder.actorName i = ActivityBuilder.slug handle := by
  rw [ActivityBuilder.actorName, h]
  exact if_neg hne

/-! ### Accepted intents -/

theorem attemptsFor_stored {C : FediverseConfig} {now : Time} {attrs : IntentAttrs}
    {s t : Federation} {row : PublicationRow} (h : Stored C now attrs s row t) (inbox : String) :
    attemptsFor row.publicationId inbox t =
      if inbox ∈ targets C row.toPublicationIntent s then 1 else 0 := by
  obtain ⟨new, hqueue, hpubs, hboxes⟩ := h.queue
  have hold : s.queue.attempts.rows.countP (fun a =>
      a.publicationId == row.publicationId && a.remoteInbox == inbox) = 0 := by
    rw [List.countP_eq_zero]
    intro a ha
    simp [h.fresh a ha]
  have hnew : new.countP (fun a =>
      a.publicationId == row.publicationId && a.remoteInbox == inbox) =
      (new.map (·.remoteInbox)).count inbox := by
    rw [List.count, List.countP_map]
    refine List.countP_congr fun a ha => ?_
    simp [hpubs a ha]
  have hnodup : (targets C row.toPublicationIntent s).Nodup := nodup_eraseDups _
  rw [attemptsFor, hqueue, List.countP_append, hold, hnew, hboxes, Nat.zero_add, hnodup.count]

/-- **When an accepted intent is one of the actor with the handle of its author's account.** -/
theorem namedAs_iff {C : FediverseConfig} {s t : Federation} {q : PublicationRequest}
    {row : PublicationRow} {handle : String} (hs : FederationSound C s)
    (hcreate : PublicationIntentController.create C q s = (.ok row, t))
    (hhandle : accountHandle row.authorDid t = some handle) :
    NamedAs C handle row t ↔ OwnName s row.authorDid handle := by
  rcases create_of_sound hs q with ⟨e, relay, heq⟩ | ⟨attrs, handle', row', t', heq, hcreated⟩
  · rw [heq] at hcreate
    cases hcreate
  obtain ⟨hok, rfl⟩ := Prod.mk.inj (heq.symm.trans hcreate)
  obtain rfl := Except.ok.inj hok
  obtain ⟨relay, hauthorized, hstored⟩ := hcreated.stored
  have hdid : row'.authorDid = attrs.authorDid := congrArg (·.authorDid) hstored.intent
  have hpayload : row'.payload = attrs.payload := congrArg (·.payload) hstored.intent
  have hrelay : t'.relay = relay := congrArg (·.relay) hstored.frame
  have hpreferences : t'.preferences = s.preferences := congrArg (·.preferences) hstored.frame
  have hfollowers : t'.followers = s.followers := congrArg (·.followers) hstored.frame
  obtain ⟨entry, hget, hentry⟩ := hauthorized.account
  have hentry' : entry.handle = handle := by
    rw [accountHandle, hrelay, hdid, hget] at hhandle
    exact Option.some.inj hhandle
  obtain rfl : handle' = handle := hentry.symm.trans hentry'
  have hname : ActivityBuilder.actorName row'.toPublicationIntent = ActivityBuilder.slug handle' :=
    actorName_of_actor (hpayload ▸ hauthorized.actor) hauthorized.handle_ne
  have hpreference : ∃ p, FediversePreferences.getByDid row'.authorDid s.preferences = some p := by
    obtain ⟨p, hp, -⟩ := (Option.any_eq_true _ _).1 hauthorized.enabled
    exact ⟨p, hdid ▸ hp⟩
  constructor
  · intro hnamed
    obtain ⟨p, hp⟩ := hpreference
    refine ⟨(slug_eq_iff handle').1 (hname.symm.trans hnamed.name), p, hp, ?_⟩
    exact (hnamed.preference p (hpreferences ▸ hp)).trans hnamed.name
  · -- a plain handle is its own slug, so all lookups are by one name
    rintro ⟨hplain, p, hp, hactor⟩
    have hslug : ActivityBuilder.actorName row'.toPublicationIntent = handle' :=
      hname.trans ((slug_eq_iff handle').2 hplain)
    have hbyActor : FediversePreferences.getByActor handle' s.preferences = some p :=
      hactor ▸ FediversePreferences.getByActor_eq hp
    have hpdid : p.did = row'.authorDid := (FediversePreferences.getByDid_eq_some.1 hp).2
    refine ⟨hslug, ?_, ?_, ?_, ?_⟩
    · intro p' hp'
      rw [hpreferences, hp] at hp'
      rw [← Option.some.inj hp', hactor, hslug]
    · rw [hslug, Federation.knownActor, hpreferences, hbyActor]
      dsimp only
      rw [hpdid, hrelay, hdid, hget]
      exact if_pos hentry
    · exact List.mem_filter.2 ⟨hstored.mem, beq_iff_eq.2 hslug⟩
    · intro inbox
      have htargets : targets C row'.toPublicationIntent { s with relay } =
          inboxesOf C (FediversePreferences.getByDid row'.authorDid t'.preferences) handle' t' := by
        rw [targets, hslug, hpreferences, hp]
        dsimp only
        rw [hbyActor, inboxesOf, inboxesOf, Federation.followersOf, Federation.followersOf,
          hfollowers]
      rw [attemptsFor_stored hstored inbox, htargets]

/-- **Names agree, and different handles have different names, exactly for handles that are their
own slugs and under which the preferences are stored.** -/
theorem actor_naming (C : FediverseConfig) {as as' : List FederationStep}
    {q q' : PublicationRequest} {row row' : PublicationRow} {t t' : Federation}
    {handle handle' : String}
    (hcreate : PublicationIntentController.create C q (exec (federationStep C) .empty as) =
      (.ok row, t))
    (hhandle : accountHandle row.authorDid t = some handle)
    (hcreate' : PublicationIntentController.create C q' (exec (federationStep C) .empty as') =
      (.ok row', t'))
    (hhandle' : accountHandle row'.authorDid t' = some handle') :
    NamingLaw C handle handle' row row' t t' ↔
      OwnName (exec (federationStep C) .empty as) row.authorDid handle ∧
        OwnName (exec (federationStep C) .empty as') row'.authorDid handle' := by
  have hfirst := namedAs_iff (federationSound_exec C as) hcreate hhandle
  have hsecond := namedAs_iff (federationSound_exec C as') hcreate' hhandle'
  rw [← hfirst, ← hsecond]
  constructor
  · intro hlaw
    exact ⟨hlaw.first, hlaw.second⟩
  · rintro ⟨hnamed, hnamed'⟩
    refine ⟨hnamed, hnamed', fun hne heq => hne ?_⟩
    rw [← hnamed.name, ← hnamed'.name, heq]

/-! ### Two accounts -/

/-- The author consents, and a remote actor follows. -/
def toyPublisher (handle : String) : List FederationStep :=
  [.identity (toyAuthor handle), .preference toyConsent,
    .inbox
      { now := 0, baseUrl := "https://relay.test", actor := handle
        activity := .obj [("id", .str "https://r.test/1"), ("type", .str "Follow"),
          ("actor", .str "https://r.test/bob")]
        fetchActor := fun _ => some (.obj [("inbox", .str "https://r.test/inbox")])
        verified := true }]

def toyPublished (handle : String) : Except PublicationRefusal PublicationRow × Federation :=
  PublicationIntentController.create toyFediverse (toyIntent 1 "i1" "note" "publish")
    (exec (federationStep toyFediverse) .empty (toyPublisher handle))

def acceptedRow (r : Except PublicationRefusal PublicationRow × Federation) : PublicationRow :=
  match r.1 with
  | .ok row => row
  | .error _ => rowOf .toy 0 ⟨"", "", "", .publish, .isPublic, .null⟩

theorem eq_ok_acceptedRow {r : Except PublicationRefusal PublicationRow × Federation}
    (h : r.1.toOption.isSome = true) : r = (.ok (acceptedRow r), r.2) := by
  obtain ⟨_ | row, t⟩ := r
  · cases h
  · rfl

def toyRow (handle : String) : PublicationRow := acceptedRow (toyPublished handle)

theorem actor_naming_toy :
    NamingLaw toyFediverse "alice" "bob" (toyRow "alice") (toyRow "bob") (toyPublished "alice").2
        (toyPublished "bob").2 ↔
      OwnName (exec (federationStep toyFediverse) .empty (toyPublisher "alice"))
          (toyRow "alice").authorDid "alice" ∧
        OwnName (exec (federationStep toyFediverse) .empty (toyPublisher "bob"))
          (toyRow "bob").authorDid "bob" := by
  have hpublished : ∀ handle ∈ ["alice", "bob"],
      (toyPublished handle).1.toOption.isSome = true ∧
        accountHandle (toyRow handle).authorDid (toyPublished handle).2 = some handle := by
    decide +kernel
  obtain ⟨halice, halice'⟩ := hpublished "alice" (List.mem_cons_self ..)
  obtain ⟨hbob, hbob'⟩ := hpublished "bob" (List.mem_cons_of_mem _ (List.mem_cons_self ..))
  exact actor_naming toyFediverse (eq_ok_acceptedRow halice) halice' (eq_ok_acceptedRow hbob) hbob'

/-- The name of the actor of a registered handle is not the handle. -/
theorem registered_handle_not_named : IdentityV2.validHandle .toy "alice.elix.cool" = true ∧
    toyPublished "alice.elix.cool" = (.ok (toyRow "alice.elix.cool"),
      (toyPublished "alice.elix.cool").2) ∧
    accountHandle (toyRow "alice.elix.cool").authorDid (toyPublished "alice.elix.cool").2 =
      some "alice.elix.cool" ∧
    ¬ NamedAs toyFediverse "alice.elix.cool" (toyRow "alice.elix.cool")
      (toyPublished "alice.elix.cool").2 := by
  obtain ⟨hvalid, hpublished, hhandle, hname⟩ :
      IdentityV2.validHandle .toy "alice.elix.cool" = true ∧
      (toyPublished "alice.elix.cool").1.toOption.isSome = true ∧
      accountHandle (toyRow "alice.elix.cool").authorDid (toyPublished "alice.elix.cool").2 =
        some "alice.elix.cool" ∧
      ActivityBuilder.actorName (toyRow "alice.elix.cool").toPublicationIntent =
        "alice-elix-cool" := by
    decide +kernel
  refine ⟨hvalid, eq_ok_acceptedRow hpublished, hhandle, fun hnamed => ?_⟩
  rw [hnamed.name] at hname
  exact absurd hname (by decide)

end Ansible
