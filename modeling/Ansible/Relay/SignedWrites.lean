import Ansible.Relay.FederationRun
import Ansible.Relay.XrpcController

/-!
# Signatures that are used once

What the author of an intent signs leaves out the identifier of the intent, and the key of a
record is drawn after its signature was made.  Both keep two rows apart, and neither is bound to
a signature.

## Main definitions

* `intentKey`, `recordKey` — the signer and the signature of a request.
* `SignedWrites`, `writeStep` — the machine, which notes the signatures that it has stored
  something for.
* `Unrepeated` — a signature that was used is not accepted a second time.

## Main results

* `signatures_used_once` — **no signature is used twice exactly when every request that repeats
  one is stopped by the checks or by a row with its identifier.**
-/

namespace Ansible

/-! ### Intents that are stored -/

namespace PublicationIntentStore

/-- The row of the intent fits its columns, and no row has one of its identifiers. -/
def Storable (C : FediverseConfig) (attrs : IntentAttrs) (s : Federation) : Prop :=
  (∀ column ∈ [attrs.intentId, attrs.authorDid, attrs.contentItemId],
    isBlank column = false ∧ fitsVarchar column = true) ∧ fitsJsonb attrs.payload = true ∧
  ∀ row ∈ s.publications.rows, row.intentId ≠ attrs.intentId ∧
    row.publicationId ≠ publicationId C.toPlatform attrs.intentId

theorem length_fanOutToFollowers (C : FediverseConfig) (now : Time) (row : PublicationRow)
    (s : Federation) : (fanOutToFollowers C now row s).2.publications.rows.length =
      s.publications.rows.length := by
  unfold fanOutToFollowers
  dsimp only
  split
  · rfl
  · exact List.length_map ..

theorem insert_isSome {t : PublicationTable} {row : PublicationRow} :
    (t.insert row).isSome = true ↔ ∀ x ∈ t.rows,
      x.intentId ≠ row.intentId ∧ x.publicationId ≠ row.publicationId := by
  rw [Table.insert, Table.commit_isSome]
  constructor
  · intro h x hx
    exact ⟨h.intentId.ne_of_append x hx, h.publicationId.ne_of_append x hx⟩
  · intro h
    exact ⟨t.valid.publicationId.append_new fun x hx => (h x hx).2,
      t.valid.intentId.append_new fun x hx => (h x hx).1⟩

theorem accept_of_storable {C : FediverseConfig} {now : Time} {attrs : IntentAttrs}
    {s : Federation} (h : Storable C attrs s) :
    (accept C now attrs s).2.publications.rows.length = s.publications.rows.length + 1 := by
  obtain ⟨hcolumns, hpayload, hfresh⟩ := h
  have hblank : [attrs.intentId, attrs.authorDid, attrs.contentItemId].any isBlank = false :=
    List.any_eq_false.2 fun x hx => by rw [(hcolumns x hx).1]; exact Bool.false_ne_true
  have hfits : [attrs.intentId, attrs.authorDid, attrs.contentItemId].all fitsVarchar = true :=
    List.all_eq_true.2 fun x hx => (hcolumns x hx).2
  have hsome : (s.publications.insert (rowOf C.toPlatform now attrs)).isSome = true :=
    insert_isSome.2 hfresh
  obtain ⟨publications, hinsert⟩ := Option.isSome_iff_exists.1 hsome
  unfold accept
  dsimp only
  rw [if_neg (by rw [hblank]; exact Bool.false_ne_true), if_neg (by rw [hfits, hpayload]; decide),
    hinsert]
  dsimp only
  rw [length_fanOutToFollowers, Table.rows_of_commit hinsert, List.length_append]
  rfl

theorem accept_of_not_storable {C : FediverseConfig} {now : Time} {attrs : IntentAttrs}
    {s : Federation} (h : ¬ Storable C attrs s) : (accept C now attrs s).2 = s := by
  unfold accept
  dsimp only
  split
  · rfl
  next hblank =>
  split
  · rfl
  next hfits =>
  split
  · rfl
  next publications hinsert =>
  rw [Bool.not_eq_true, Bool.not_eq_false', Bool.and_eq_true] at hfits
  refine absurd ⟨fun column hcolumn => ⟨?_, List.all_eq_true.1 hfits.1 column hcolumn⟩,
    hfits.2, ?_⟩ h
  · rw [Bool.not_eq_true, List.any_eq_false] at hblank
    exact Bool.not_eq_true _ ▸ hblank column hcolumn
  · exact insert_isSome.1 (Option.isSome_iff_exists.2 ⟨publications, hinsert⟩)

end PublicationIntentStore

namespace PublicationIntentController

/-- The intent passes the checks, and its row can be stored. -/
def Publishable (C : FediverseConfig) (q : PublicationRequest) (s : Federation) : Prop :=
  ∃ attrs t, authorize C q s = (.ok attrs, t) ∧ PublicationIntentStore.Storable C attrs s

theorem acceptIntent_state (C : FediverseConfig) (now : Time) (attrs : IntentAttrs)
    (s : Federation) :
    (acceptIntent C now attrs s).2 = (PublicationIntentStore.accept C now attrs s).2 := by
  unfold acceptIntent
  generalize PublicationIntentStore.accept C now attrs s = r
  obtain ⟨r, t⟩ := r
  cases r with
  | ok row => rfl
  | error e => cases e <;> rfl

variable {C : FediverseConfig} {q : PublicationRequest} {s : Federation}

theorem authorize_publications {t : Federation} {r : Except PublicationRefusal IntentAttrs}
    (h : authorize C q s = (r, t)) : t.publications = s.publications := by
  obtain ⟨relay, heq⟩ := caching_authorize C q s
  rw [h] at heq
  have hsame := congrArg Federation.publications heq
  exact hsame

/-- **An intent that passes the checks and can be stored gets a row.** -/
theorem create_of_publishable (h : Publishable C q s) :
    (create C q s).2.publications.rows.length = s.publications.rows.length + 1 := by
  obtain ⟨attrs, t, hchecks, hstorable⟩ := h
  have hsame := authorize_publications hchecks
  have hstorable' : PublicationIntentStore.Storable C attrs t := by
    rw [PublicationIntentStore.Storable, hsame]
    exact hstorable
  rw [create, Checked.bind_apply, hchecks]
  dsimp only
  rw [acceptIntent_state, PublicationIntentStore.accept_of_storable hstorable', hsame]

theorem create_of_not_publishable (h : ¬ Publishable C q s) :
    (create C q s).2.publications = s.publications := by
  rw [create, Checked.bind_apply]
  generalize hchecks : authorize C q s = r
  obtain ⟨r, t⟩ := r
  have hsame := authorize_publications hchecks
  cases r with
  | error e => exact hsame
  | ok attrs =>
    have hnot : ¬ PublicationIntentStore.Storable C attrs t := by
      intro hstorable
      rw [PublicationIntentStore.Storable, hsame] at hstorable
      exact h ⟨attrs, t, hchecks, hstorable⟩
    dsimp only
    rw [acceptIntent_state, PublicationIntentStore.accept_of_not_storable hnot, hsame]

end PublicationIntentController

/-! ### The machine -/

/-- The configuration of both endpoints. -/
structure WriteConfig extends FediverseConfig where
  /-- How a value becomes a part of a text. -/
  toText : Json → Option String

/-- Who signed a request and with what, where hexadecimal digits are the same in either case. -/
def signerOf (did signature : Json) : Option (String × String) :=
  match did, signature with
  | .str did, .str signature => some (did, VpVerifier.downcaseHex signature)
  | _, _ => none

/-- A signature for development is not made by a key. -/
def intentKey (C : FediverseConfig) (q : PublicationRequest) : Option (String × String) :=
  (signerOf (q.params.fetch "author_did") (q.params.fetch "signature")).filter fun key =>
    !PublicationIntentController.isDevSignature C key.2

def recordKey (q : RecordRequest) : Option (String × String) :=
  signerOf (q.params.fetch "repo") (q.params.fetch "commit_sig")

structure SignedWrites where
  federation : Federation
  log : List OpStore.Op
  /-- The signer and the signature for each intent and each record that was stored. -/
  stored : List (String × String)

namespace SignedWrites

def empty : SignedWrites := ⟨Federation.empty, [], []⟩

def records (s : SignedWrites) : RecordStore := ⟨s.federation.relay, s.log⟩

end SignedWrites

inductive WriteStep
  /-- Intents, and anything else that happens to the federation. -/
  | federation (a : FederationStep)
  | record (q : RecordRequest)
  /-- Another endpoint appends an op. -/
  | op (receivedAt : String) (p : OpParams)

/-- What is noted of a step of the federation. -/
def newIntents (C : FediverseConfig) (s : Federation) : FederationStep → List (String × String)
  | .publish q =>
    if s.publications.rows.length <
        (PublicationIntentController.create C q s).2.publications.rows.length
    then (intentKey C q).toList else []
  | _ => []

def writeStep (C : WriteConfig) (s : SignedWrites) : WriteStep → SignedWrites
  | .federation a =>
    { s with
      federation := federationStep C.toFediverseConfig s.federation a
      stored := s.stored ++ newIntents C.toFediverseConfig s.federation a }
  | .record q =>
    let t := (XrpcController.createRecord C.toPlatform C.toText q s.records).2
    { federation := { s.federation with relay := t.relay }
      log := t.log
      stored := s.stored ++ if s.log.length < t.log.length then (recordKey q).toList else [] }
  | .op receivedAt p => { s with log := (OpStore.doAppend receivedAt p s.log).2 }

/-- A request that repeats a signature is stopped: a check fails, or its identifiers are taken. -/
def Unrepeated (C : WriteConfig) (s : SignedWrites) : WriteStep → Prop
  | .federation (.publish q) => ∀ key ∈ intentKey C.toFediverseConfig q, key ∈ s.stored →
      ¬ PublicationIntentController.Publishable C.toFediverseConfig q s.federation
  | .record q => ∀ key ∈ recordKey q, key ∈ s.stored →
      ¬ XrpcController.Recordable C.toPlatform C.toText q s.records
  | _ => True

/-! ### The law -/

theorem nodup_append_toList {α : Type} {l : List α} {o : Option α} :
    (l ++ o.toList).Nodup ↔ l.Nodup ∧ ∀ x ∈ o, x ∉ l := by
  cases o with
  | none => simp
  | some x =>
    rw [Option.toList_some, List.nodup_append]
    simp
    grind

theorem nodup_federation (C : WriteConfig) (s : SignedWrites) (a : FederationStep) :
    (writeStep C s (.federation a)).stored.Nodup ↔
      s.stored.Nodup ∧ Unrepeated C s (.federation a) := by
  cases a with
  | publish q =>
    dsimp only [writeStep, newIntents, Unrepeated]
    by_cases hq : PublicationIntentController.Publishable C.toFediverseConfig q s.federation
    · have hlen := PublicationIntentController.create_of_publishable hq
      rw [if_pos (by omega), nodup_append_toList]
      simp [hq]
    · have hsame := PublicationIntentController.create_of_not_publishable hq
      rw [hsame, if_neg (lt_irrefl _), List.append_nil]
      simp [hq]
  | _ => simp [writeStep, newIntents, Unrepeated]

theorem nodup_record (C : WriteConfig) (s : SignedWrites) (q : RecordRequest) :
    (writeStep C s (.record q)).stored.Nodup ↔ s.stored.Nodup ∧ Unrepeated C s (.record q) := by
  dsimp only [writeStep, Unrepeated]
  by_cases hq : XrpcController.Recordable C.toPlatform C.toText q s.records
  · obtain ⟨o, hlog⟩ := XrpcController.createRecord_of_recordable hq
    have hlen : s.log.length <
        (XrpcController.createRecord C.toPlatform C.toText q s.records).2.log.length := by
      rw [hlog, List.length_append]
      exact Nat.lt_succ_self _
    rw [if_pos hlen, nodup_append_toList]
    simp [hq]
  · have hlog : (XrpcController.createRecord C.toPlatform C.toText q s.records).2.log = s.log :=
      XrpcController.createRecord_of_not_recordable hq
    rw [hlog, if_neg (lt_irrefl _), List.append_nil]
    simp [hq]

def toyWrites : WriteConfig where
  toFediverseConfig := toyFediverse
  toText := Json.str?

/-- The author publishes a note and deletes it, and somebody sends the publication once more,
under another identifier. -/
def republishedRun : List WriteStep :=
  [.federation (.identity (toyAuthor "alice")), .federation (.preference toyConsent),
    .federation (.publish (toyIntent 1 "i1" "note" "publish")),
    .federation (.publish (toyIntent 2 "i2" "note" "delete")),
    .federation (.publish (toyIntent 3 "i3" "note" "publish"))]

end Ansible
