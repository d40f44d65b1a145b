import Ansible.Lib.Newest
import Ansible.Lib.Table
import Ansible.Lib.Uri
import Ansible.Relay.ActivityBuilder

/-!
# Preferences of fediverse accounts

A user consents to federation, and says which remote servers and actors may take part, in a row
of its own.  The row carries the name of the account's actor from the time it was written.

## Main definitions

* `FediversePreference`, `PreferenceTable` — the rows.
* `FediversePreferences.put` — a row of a higher revision takes the place of the old one.
* `FediversePreferences.allowedRemote` — the host policy for a remote actor and its inbox.

## Main results

* `FediversePreferences.getByActor_eq` — the row of a DID is found by the name that it carries.
-/

namespace Ansible

inductive DomainPolicy
  | anyDomain
  | allowlist
  deriving DecidableEq, Repr

/-- A row of `fediverse_preferences`, without the signature over it. -/
structure FediversePreference where
  did : String
  actor : String
  enabled : Bool
  defaultNoteVisibility : PublicationVisibility
  allowRemoteFollowers : Bool
  domainPolicy : DomainPolicy
  allowedDomains : List String
  blockedDomains : List String
  blockedActors : List String
  revision : ℤ

structure PreferenceIndexes (rows : List FediversePreference) : Prop where
  did : UniqueOn (·.did) (fun _ => true) rows
  actor : UniqueOn (·.actor) (fun _ => true) rows

instance : DecidablePred PreferenceIndexes := fun rows =>
  decidable_of_iff (UniqueOn (fun p : FediversePreference => p.did) (fun _ => true) rows ∧
    UniqueOn (·.actor) (fun _ => true) rows) ⟨fun h => ⟨h.1, h.2⟩, fun h => ⟨h.1, h.2⟩⟩

abbrev PreferenceTable := Table FediversePreference PreferenceIndexes

namespace FediversePreferences

def getByDid (did : String) (t : PreferenceTable) : Option FediversePreference :=
  t.find (·.did == did)

def getByActor (actor : String) (t : PreferenceTable) : Option FediversePreference :=
  t.find (·.actor == actor)

def enabledForDid (did : String) (t : PreferenceTable) : Bool := (getByDid did t).any (·.enabled)

def enabledActor (actor : String) (t : PreferenceTable) : Bool :=
  (getByActor actor t).any (·.enabled)

/-! ### Domains and actors -/

/-- `String.trim` -/
def trim (value : Text) : Text :=
  ((value.dropWhile isWhiteSpace).reverse.dropWhile isWhiteSpace).reverse

/-- Lower case, as far as it leads to ASCII. -/
def lowerChar (c : Char) : Char :=
  if 'A' ≤ c ∧ c ≤ 'Z' then Char.ofNat (c.toNat + 32) else if c.toNat = 0x212A then 'k' else c

/-- `^[a-z0-9.-]+$`, which lets one newline follow. -/
def isDomainName (value : Text) : Bool :=
  let name := if value.getLast? = some '\n' then value.dropLast else value
  name ≠ [] && name.all fun c => isSlugLetter c || c == '.' || c == '-'

def normalizeDomain (value : String) : Option String :=
  let trimmed := ((trim (chars value)).reverse.dropWhile (· == '.')).reverse
  let name := trimmed.map lowerChar
  if isDomainName name then some (String.ofList name) else none

def normalizeActor (value : String) : Option String :=
  let trimmed := String.ofList (trim (chars value))
  if (Uri.httpsHost trimmed).isSome then some trimmed else none

def normalized (normalize : String → Option String) (values : List String) : List String :=
  ((values.filterMap normalize).eraseDups).insertionSort fun a b => bytes a ≤ bytes b

def normalizeDomains : List String → List String := normalized normalizeDomain

def normalizeActors : List String → List String := normalized normalizeActor

/-- The domain of a URL, or of a text that is a domain itself. -/
def domain (url : String) : Option String :=
  match Uri.httpsHost url with
  | some host => normalizeDomain (String.ofList host)
  | none => normalizeDomain url

/-- The domain is in the list, or below one that is. -/
def domainListed (domains : List String) (domain : String) : Bool :=
  domains.any fun d => domain == d || ('.' :: chars d).isSuffixOf (chars domain)

/-- May a remote actor take part?  Without a row, none may. -/
def allowedRemote (platformBlocks : List String) (preference : Option FediversePreference)
    (actorUrl : String) (inboxUrl : Option String) : Bool :=
  match preference with
  | none => false
  | some p =>
    let domains := (domain actorUrl).toList ++ (inboxUrl.bind domain).toList
    if (normalizeActor actorUrl).any fun actor => actor ∈ p.blockedActors then false
    else if domains.any (domainListed platformBlocks) then false
    else if domains.any (domainListed p.blockedDomains) then false
    else if p.domainPolicy = .allowlist then
      domains ≠ [] && domains.all (domainListed p.allowedDomains)
    else true

/-! ### Writing -/

inductive PutError
  | staleRevision
  /-- The errors of the changeset. -/
  | invalid
  /-- A value that its column cannot hold. -/
  | raised
  deriving DecidableEq, Repr

def storable (p : FediversePreference) : Bool :=
  ([p.did, p.actor] ++ p.allowedDomains ++ p.blockedDomains ++ p.blockedActors).all fitsVarchar

def isInvalid (p : FediversePreference) : Bool :=
  isBlank p.did || isBlank p.actor || decide (p.revision ≤ 0)

/-- The row is checked and written; a name that another row carries is an error. -/
def write (p : FediversePreference) (written : Option PreferenceTable) :
    Except PutError PreferenceTable :=
  if isInvalid p then .error .invalid
  else if !storable p then .error .raised
  else
    match written with
    | none => .error .invalid
    | some t => .ok t

def put (attrs : FediversePreference) (t : PreferenceTable) : Except PutError PreferenceTable :=
  match getByDid attrs.did t with
  | none => write attrs (t.insert attrs)
  | some p =>
    if attrs.revision ≤ p.revision then .error .staleRevision
    else write attrs (t.update (·.did == attrs.did) fun _ => attrs)

/-! ### Lookups -/

variable {t : PreferenceTable} {p : FediversePreference}

theorem getByDid_eq_some {did : String} : getByDid did t = some p ↔ p ∈ t.rows ∧ p.did = did := by
  rw [getByDid, Table.find_eq_some_iff]
  · simp
  · intro p hp q hq hpd hqd
    rw [beq_iff_eq] at hpd hqd
    exact t.valid.did.eq hp hq rfl rfl (hpd.trans hqd.symm)

theorem getByActor_eq_some {actor : String} :
    getByActor actor t = some p ↔ p ∈ t.rows ∧ p.actor = actor := by
  rw [getByActor, Table.find_eq_some_iff]
  · simp
  · intro p hp q hq hpa hqa
    rw [beq_iff_eq] at hpa hqa
    exact t.valid.actor.eq hp hq rfl rfl (hpa.trans hqa.symm)

/-- The row of a DID is found by the name that it carries. -/
theorem getByActor_eq {did : String} (h : getByDid did t = some p) :
    getByActor p.actor t = some p :=
  getByActor_eq_some.2 ⟨(getByDid_eq_some.1 h).1, rfl⟩

end FediversePreferences

end Ansible
