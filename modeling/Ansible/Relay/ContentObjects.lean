import Ansible.Relay.FederationRun

/-!
# Objects of content items

An author publishes, updates and deletes a content item; the fediverse sees activities about an
object.  The id of the object is made of the publication, of which there is one for each intent.

## Main definitions

* `ActivityPubController.object` — what the object endpoint serves.

## Main results

* `one_object_law` — **a run keeps items single objects exactly when every accepted intent is the
  first one about its item.**
-/

namespace Ansible

def ActivityPubController.object (publicationId baseUrl : String) (s : Federation) : Option Json :=
  (PublicationIntentStore.getByPublicationId publicationId s).map fun row =>
    (ActivityBuilder.fromIntent row.toPublicationIntent baseUrl).fetch "object"

/-- The intents are about one content item of one author. -/
def SameItem (i j : PublicationIntent) : Prop :=
  i.authorDid = j.authorDid ∧ i.contentItemId = j.contentItemId

/-- The object that the activity of an intent is about. -/
def objectIdOf (i : PublicationIntent) (baseUrl : String) : Json :=
  ((ActivityBuilder.fromIntent i baseUrl).fetch "object").fetch "id"

/-- Every item is one object, and a tombstone once it is deleted. -/
structure OneObject (s : Federation) : Prop where
  same : ∀ i ∈ s.intents, ∀ j ∈ s.intents, SameItem i j →
    ∀ baseUrl, objectIdOf i baseUrl = objectIdOf j baseUrl
  apart : ∀ i ∈ s.intents, ∀ j ∈ s.intents, ¬ SameItem i j →
    ∀ baseUrl, objectIdOf i baseUrl ≠ objectIdOf j baseUrl
  /-- After a deletion that is the last word about an item. -/
  tombstone : ∀ before j after, s.intents = before ++ j :: after → j.action = .delete →
    (∀ k ∈ after, ¬ SameItem k j) → ∀ i ∈ s.intents, SameItem i j → ∀ baseUrl,
      ∃ object, ActivityPubController.object i.publicationId baseUrl s = some object ∧
        object.fetch "type" = .str "Tombstone"

/-- An intent that is accepted is the first one about its item. -/
def NewItem (C : FediverseConfig) (s : Federation) : FederationStep → Prop
  | .publish q => ∀ row, (PublicationIntentController.create C q s).1 = .ok row →
    ∀ i ∈ s.intents, ¬ SameItem i row.toPublicationIntent
  | _ => True

/-- No two intents are about one item. -/
def ItemsApart (s : Federation) : Prop := s.intents.Pairwise fun i j => ¬ SameItem i j

/-! ### Objects of a state -/

theorem objectIdOf_eq (i : PublicationIntent) (baseUrl : String) :
    objectIdOf i baseUrl = .str (ActivityBuilder.objectUrl i.publicationId baseUrl) := by
  rw [objectIdOf, ActivityBuilder.fetch_object, ActivityBuilder.fetch_objectId]

theorem objectIdOf_inj {i j : PublicationIntent} {baseUrl : String} :
    objectIdOf i baseUrl = objectIdOf j baseUrl ↔ i.publicationId = j.publicationId := by
  rw [objectIdOf_eq, objectIdOf_eq]
  constructor
  · intro h
    exact ActivityBuilder.objectUrl_injective (Json.str.inj h)
  · intro h
    rw [h]

theorem publicationIds_nodup (s : Federation) : (s.intents.map (·.publicationId)).Nodup := by
  have hvalid := s.publications.valid.publicationId
  rw [UniqueOn, List.filter_true] at hvalid
  rw [Federation.intents, List.map_map]
  exact hvalid

theorem object_of_mem {s : Federation} {i : PublicationIntent} (h : i ∈ s.intents)
    (baseUrl : String) : ActivityPubController.object i.publicationId baseUrl s =
      some (ActivityBuilder.objectFor i baseUrl) := by
  obtain ⟨row, hrow, rfl⟩ := List.mem_map.1 h
  have hfind : PublicationIntentStore.getByPublicationId row.publicationId s = some row := by
    rw [PublicationIntentStore.getByPublicationId, Table.find_eq_some_iff]
    · exact ⟨hrow, beq_self_eq_true _⟩
    · intro x hx y hy hxp hyp
      rw [beq_iff_eq] at hxp hyp
      exact s.publications.valid.publicationId.eq hx hy rfl rfl (hxp.trans hyp.symm)
  rw [ActivityPubController.object, hfind, Option.map_some, ActivityBuilder.fetch_object]

theorem fetch_type_tombstone {i : PublicationIntent} (h : i.action = .delete) (baseUrl : String) :
    (ActivityBuilder.objectFor i baseUrl).fetch "type" = .str "Tombstone" := by
  rw [ActivityBuilder.objectFor, h]
  rfl

/-- **Items are single objects exactly when no two intents are about one item.** -/
theorem oneObject_iff (s : Federation) : OneObject s ↔ ItemsApart s := by
  have hnodup := publicationIds_nodup s
  constructor
  · intro h
    -- two intents about one item would share a publication
    have hdistinct : s.intents.Pairwise fun i j => i.publicationId ≠ j.publicationId :=
      List.pairwise_map.1 hnodup
    refine hdistinct.imp_of_mem fun {i j} hi hj hne hsame => hne ?_
    exact objectIdOf_inj.1 (h.same i hi j hj hsame "")
  · intro h
    have heq : ∀ i ∈ s.intents, ∀ j ∈ s.intents, SameItem i j → i = j := by
      intro i hi j hj hsame
      by_contra hne
      have hsymm : Std.Symm fun i j => ¬ SameItem i j :=
        ⟨fun _ _ hxy hyx => hxy ⟨hyx.1.symm, hyx.2.symm⟩⟩
      exact h.forall hi hj hne hsame
    refine ⟨?_, ?_, ?_⟩
    · intro i hi j hj hsame baseUrl
      rw [heq i hi j hj hsame]
    · intro i hi j hj happart baseUrl hid
      have hpub := objectIdOf_inj.1 hid
      obtain rfl := List.inj_on_of_nodup_map hnodup hi hj hpub
      exact happart ⟨rfl, rfl⟩
    · intro before j after hsplit hdelete _ i hi hsame baseUrl
      have hj : j ∈ s.intents := hsplit ▸ List.mem_append_right _ List.mem_cons_self
      obtain rfl := heq i hi j hj hsame
      exact ⟨_, object_of_mem hi baseUrl, fetch_type_tombstone hdelete baseUrl⟩

/-! ### Steps -/

theorem publications_step (C : FediverseConfig) (s : Federation) {a : FederationStep}
    (h : ∀ q, a ≠ .publish q) : (federationStep C s a).publications = s.publications := by
  by_cases hinbox : ∃ q, a = .inbox q
  · obtain ⟨q, rfl⟩ := hinbox
    obtain ⟨relay, heq | ⟨-, -, heffect⟩⟩ := ActivityPubController.inbox_cases C q s
    · rw [federationStep, heq]
    · rw [federationStep]
      generalize (ActivityPubController.inbox C q s).2 = t at heffect
      cases heffect with
      | nothing => rfl
      | follow _ _ => rfl
      | unfollow _ _ _ _ => rfl
      | record _ =>
        rcases InboundStore.record_cases q.now q.actor _ q.activity { s with relay } with
          ⟨n, heq⟩ | ⟨row, inbound, n, heq, -⟩
        · rw [heq]
        · rw [heq]
  · obtain ⟨relay, preferences, followers, queue, heq⟩ :=
      local_step_frame C s (fun q hq => hinbox ⟨q, hq⟩) h
    rw [heq]

/-- A step keeps items apart exactly when an accepted intent is about a new item. -/
theorem itemsApart_step {C : FediverseConfig} {s : Federation} (h : FederationSound C s)
    (a : FederationStep) : ItemsApart (federationStep C s a) ↔ ItemsApart s ∧ NewItem C s a := by
  have hsame : (∀ q, a ≠ .publish q) →
      (ItemsApart (federationStep C s a) ↔ ItemsApart s) := by
    intro hne
    rw [ItemsApart, Federation.intents, publications_step C s hne]
    rfl
  cases a with
  | publish q =>
    rw [federationStep]
    rcases create_of_sound h q with ⟨e, relay, heq⟩ | ⟨attrs, handle, row, t, heq, hcreated⟩
    · have hnew : NewItem C s (.publish q) := by
        intro row hrow
        rw [heq] at hrow
        cases hrow
      rw [heq]
      exact ⟨fun hapart => ⟨hapart, hnew⟩, fun hboth => hboth.1⟩
    · obtain ⟨relay, -, hstored⟩ := hcreated.stored
      have hintents : t.intents = s.intents ++ [row.toPublicationIntent] := hstored.intents
      rw [heq, ItemsApart, hintents, List.pairwise_append]
      constructor
      · rintro ⟨hold, -, hcross⟩
        refine ⟨hold, fun row' hrow' i hi => ?_⟩
        rw [heq] at hrow'
        cases hrow'
        exact hcross i hi _ (List.mem_singleton_self _)
      · rintro ⟨hold, hnew⟩
        refine ⟨hold, List.pairwise_singleton _ _, fun i hi j hj => ?_⟩
        obtain rfl := List.mem_singleton.1 hj
        exact hnew row (by rw [heq]) i hi
  | identity relay => rw [hsame fun q hq => by cases hq]; simp [NewItem]
  | preference attrs => rw [hsame fun q hq => by cases hq]; simp [NewItem]
  | deleteAccount now did baseUrl => rw [hsame fun q hq => by cases hq]; simp [NewItem]
  | inbox q => rw [hsame fun q hq => by cases hq]; simp [NewItem]
  | delivery a u => rw [hsame fun q hq => by cases hq]; simp [NewItem]

/-- **A run keeps items single objects exactly when every accepted intent is the first one about
its item.**  Each accepted intent makes an object of its own, so the rows of a run are one for
each item exactly as long as the intents are. -/
theorem one_object_law (C : FediverseConfig) (as : List FederationStep) :
    (∀ bs cs, as = bs ++ cs → OneObject (exec (federationStep C) .empty bs)) ↔
      Along (federationStep C) (NewItem C) .empty as := by
  have hreached : Along (federationStep C) (NewItem C) .empty as ↔
      ∀ bs cs, as = bs ++ cs → ItemsApart (exec (federationStep C) .empty bs) :=
    along_iff_reached (fun _ a h => FederationSound.step h a) (fun _ a h => itemsApart_step h a)
      (federationSound_empty C) List.Pairwise.nil
  rw [hreached]
  simp only [oneObject_iff]

/-! ### One item -/

def toyDeletedNote : List FederationStep :=
  [.identity (toyAuthor "alice"), .preference toyConsent,
    .publish (toyIntent 1 "i1" "note" "publish"), .publish (toyIntent 2 "i2" "note" "delete")]

/-- The creation and the deletion are about different objects. -/
theorem deletion_of_another_object : ¬ ∀ bs cs, toyDeletedNote = bs ++ cs →
    OneObject (exec (federationStep toyFediverse) .empty bs) := by
  intro hall
  have hintents : (exec (federationStep toyFediverse) .empty toyDeletedNote).intents.map
      (fun i => (i.publicationId, i.authorDid, i.contentItemId)) =
    [("pub_31690000000000000000000000000000", "did:elix:a", "note"),
      ("pub_32690000000000000000000000000000", "did:elix:a", "note")] := by decide +kernel
  have hone := hall toyDeletedNote [] (List.append_nil _).symm
  generalize exec (federationStep toyFediverse) .empty toyDeletedNote = s at hintents hone
  obtain ⟨i, rest, hs, hi, hrest⟩ := List.map_eq_cons_iff.1 hintents
  obtain ⟨j, rest', rfl, hj, -⟩ := List.map_eq_cons_iff.1 hrest
  simp only [Prod.mk.injEq] at hi hj
  have hid := objectIdOf_inj.1 (hone.same i (hs ▸ List.mem_cons_self) j
    (hs ▸ List.mem_cons_of_mem _ List.mem_cons_self)
    ⟨hi.2.1.trans hj.2.1.symm, hi.2.2.trans hj.2.2.symm⟩ "")
  rw [hi.1, hj.1] at hid
  exact absurd hid (by decide)

end Ansible
