import Ansible.Lib.DateTime
import Ansible.Lib.Slug
import Ansible.Relay.SigVerifier

/-!
# Activities of publication intents

An accepted publication intent is shown to the fediverse as an activity of its author's actor:
the creation, update or deletion of an object.

## Main definitions

* `PublicationIntent` — a row of `publication_intents`.
* `ActivityBuilder.actorName` — the name of the actor, a slug.
* `ActivityBuilder.objectFor`, `fromIntent` — the object and the activity.

## Main results

* `ActivityBuilder.fetch_object` — the object of the activity, whatever is left out of it.
-/

namespace Ansible

inductive PublicationAction
  | publish
  | update
  | delete
  deriving DecidableEq, Repr

inductive PublicationVisibility
  | isPublic
  | unlisted
  deriving DecidableEq, Repr

/-- The columns of an intent that federation reads. -/
structure PublicationIntent where
  publicationId : String
  intentId : String
  authorDid : String
  contentItemId : String
  action : PublicationAction
  visibility : PublicationVisibility
  payload : Json
  receivedAt : Time

namespace Actor

def actorUrl (actor baseUrl : String) : String := baseUrl ++ "/users/" ++ actor

end Actor

namespace ActivityBuilder

def publicCollection : String := "https://www.w3.org/ns/activitystreams#Public"

def slug (value : String) : String := String.ofList (slugOr "actor" value)

def actorName (i : PublicationIntent) : String :=
  match i.payload.fetch "actor" with
  | .str actor => if actor = "" then slug i.authorDid else slug actor
  | _ => slug i.authorDid

def activityType : PublicationAction → String
  | .publish => "Create"
  | .update => "Update"
  | .delete => "Delete"

def objectType (i : PublicationIntent) : String :=
  match i.payload.fetch "type", i.payload.fetch "mode" with
  | .str "article", _ => "Article"
  | .str "note", _ => "Note"
  | _, .str "note" => "Article"
  | _, _ => "Note"

/-- The lists `to` and `cc`. -/
structure Audience where
  direct : List String
  copied : List String

/-- Unlisted is public as well: the addressees change places. -/
def audience : PublicationVisibility → String → Audience
  | .isPublic, actor => ⟨[publicCollection], [actor ++ "/followers"]⟩
  | .unlisted, actor => ⟨[actor ++ "/followers"], [publicCollection]⟩

/-- `value in [nil, []]` -/
def isAbsent : Json → Bool
  | .null => true
  | .arr [] => true
  | _ => false

/-- A map without the members that are absent. -/
def present (fields : List (String × Json)) : Json := .obj (fields.filter fun kv => !isAbsent kv.2)

def texts (l : List String) : Json := .arr (l.map .str)

def timestamp (t : Time) : Json := .str (String.ofList (DateTime.toIso8601 t 6))

def objectUrl (publicationId baseUrl : String) : String := baseUrl ++ "/objects/" ++ publicationId

def activityUrl (publicationId baseUrl : String) : String :=
  baseUrl ++ "/activities/" ++ publicationId

def objectFor (i : PublicationIntent) (baseUrl : String) : Json :=
  match i.action with
  | .delete =>
    .obj [("id", .str (objectUrl i.publicationId baseUrl)), ("type", .str "Tombstone"),
      ("formerType", .str (objectType i)), ("deleted", timestamp i.receivedAt)]
  | _ =>
    let actor := Actor.actorUrl (actorName i) baseUrl
    let audience := audience i.visibility actor
    present [("id", .str (objectUrl i.publicationId baseUrl)), ("type", .str (objectType i)),
      ("attributedTo", .str actor), ("name", i.payload.fetch "title"),
      ("content", ((i.payload.fetch "body").orElse (i.payload.fetch "text")).orElse (.str "")),
      ("published", i.payload.fetch "created_at"), ("updated", i.payload.fetch "updated_at"),
      ("to", texts audience.direct), ("cc", texts audience.copied)]

def fromIntent (i : PublicationIntent) (baseUrl : String) : Json :=
  let actor := Actor.actorUrl (actorName i) baseUrl
  let audience := audience i.visibility actor
  present [("@context", .str "https://www.w3.org/ns/activitystreams"),
    ("id", .str (activityUrl i.publicationId baseUrl)), ("type", .str (activityType i.action)),
    ("actor", .str actor), ("published", timestamp i.receivedAt), ("to", texts audience.direct),
    ("cc", texts audience.copied), ("object", objectFor i baseUrl)]

/-! ### Members -/

theorem fetch_present {fields : List (String × Json)} {key : String} {j : Json}
    (h : fields.lookup key = some j) (hj : isAbsent j = false) :
    (present fields).fetch key = j := by
  have hlookup : (fields.filter fun kv => !isAbsent kv.2).lookup key = some j := by
    induction fields with
    | nil => cases h
    | cons kv fields ih =>
      obtain ⟨k, v⟩ := kv
      rw [List.lookup_cons] at h
      cases hk : key == k with
      | true =>
        rw [hk] at h
        cases h
        rw [List.filter_cons, hj, Bool.not_false, if_pos rfl, List.lookup_cons, hk]
      | false =>
        rw [hk] at h
        rw [List.filter_cons]
        split
        · rw [List.lookup_cons, hk]
          exact ih h
        · exact ih h
  rw [present, Json.fetch, Json.get?_obj, hlookup, Option.getD_some]

variable (i : PublicationIntent) (baseUrl : String)

theorem isAbsent_objectFor : isAbsent (objectFor i baseUrl) = false := by
  unfold objectFor
  split <;> rfl

theorem fetch_object : (fromIntent i baseUrl).fetch "object" = objectFor i baseUrl :=
  fetch_present rfl (isAbsent_objectFor i baseUrl)

theorem fetch_objectId :
    (objectFor i baseUrl).fetch "id" = .str (objectUrl i.publicationId baseUrl) := by
  unfold objectFor
  split
  · rfl
  · exact fetch_present rfl rfl

theorem objectUrl_injective {p q baseUrl : String} (h : objectUrl p baseUrl = objectUrl q baseUrl) :
    p = q := by
  have hlist := congrArg String.toList h
  simp only [objectUrl, String.toList_append] at hlist
  exact String.toList_inj.1 (List.append_cancel_left hlist)

end ActivityBuilder

end Ansible
