import Ansible.Lib.Slug
import Ansible.Relay.BoardGovernance

/-!
# New boards

A signed intent creates a board under a slug of its title, or under the slug with a number when
the slug is taken.  The first version of its policy is recorded with it.

## Main definitions

* `CreateBoardIntent` — what a verified intent says.
* `BoardCreation.slugify` — the slug of a title.
* `BoardCreation.createBoard` — the transaction that creates a board, for each slug in turn.

## Main results

* `createBoard_cases` — a creation adds one board with its first version, or no board.
-/

namespace Ansible

/-- A verified intent; `board` is the object with its other members. -/
structure CreateBoardIntent where
  intentId : String
  authorDid : String
  title : String
  board : Json

inductive BoardCreationError
  | missingFields
  | invalidMinPostTier
  | externalInclusionConflictsWithTrustGate
  /-- The errors of a changeset. -/
  | invalidBoard
  | duplicateIntent
  | slugUnavailable (base : Text)
  /-- A value that its column cannot hold, or a row that is not there. -/
  | raised
  deriving DecidableEq, Repr

namespace BoardCreation

/-! ### Slugs -/

def slugify (title : String) : Text := slugOr "board" title

def slugCandidate (base : Text) (attempt : ℕ) : Text :=
  if attempt = 1 then base else base ++ '-' :: Nat.toDigits 10 attempt

def maxSlugAttempts : ℕ := 20

example : slugify " Über  Hello, World! " = "ber-hello-world".toList := by decide

/-! ### Requests -/

/-- A member of the intent; one that is null is as good as absent. -/
def attr (i : CreateBoardIntent) (key : String) (dflt : Json) : Json :=
  match i.board.get? key with
  | some .null | none => dflt
  | some j => j

def gateTier (policy : Json) : Json := (policy.fetch "min_post_tier").orElse .null

/-- `ReputationTier.valid_min_post_tier?` -/
def validMinPostTier (tier : Json) : Bool :=
  BoardAccessPolicy.oneOf ["basic", "humanity_limited", "verified_human", "unique_human"] tier

/-- The tier of the policy is left out, or one of the tiers. -/
def validPostingPolicy (policy : Json) : Bool :=
  !policy.isObj || (gateTier policy).isNull || validMinPostTier (gateTier policy)

def externalInclusion (policy : Json) : Bool :=
  ((policy.fetch "external_inclusion").orElse .null).eqv (.bool true)

/-- A tier above `basic` is a gate for verified humans. -/
def gatedMinPostTier (policy : Json) : Bool :=
  validMinPostTier (gateTier policy) && !(gateTier policy).eqv (.str "basic")

def validPollCreation (policy : Json) : Bool :=
  let roles := (policy.fetch "poll_creation").orElse .null
  roles.isNull || BoardAccessPolicy.oneOf ["posters", "moderators", "owners"] roles

/-- `normalize_create_board_attrs` -/
def normalizeCreateBoardAttrs (i : CreateBoardIntent) : Except BoardCreationError Unit := do
  let policy := attr i "posting_policy" .null
  ensure ([i.intentId, i.authorDid, i.title].all fun s => !isBlank s) .missingFields
  ensure (validPostingPolicy policy) .invalidMinPostTier
  ensure (!(externalInclusion policy && gatedMinPostTier policy))
    .externalInclusionConflictsWithTrustGate

/-- The members of the intent that its hash covers. -/
def submittedBoardPayload (i : CreateBoardIntent) : Json :=
  .obj (("title", .str i.title) :: ["description", "language", "tags", "permissions",
    "posting_policy", "moderation_policy", "access_policy", "content_visibility",
    "federation_policy"].filterMap fun key =>
      match i.board.get? key with
      | some .null | none => none
      | some j => some (key, j))

def payloadHash (P : Platform) (i : CreateBoardIntent) : Text :=
  BoardGovernance.hashOf P (.obj [("action", .str "create_board"), ("intent_id", .str i.intentId),
    ("author_did", .str i.authorDid), ("board", submittedBoardPayload i)])

/-! ### Boards -/

/-- The visibility; a blank text is cast to the default. -/
def visibilityOf (i : CreateBoardIntent) : Json :=
  match attr i "content_visibility" (.str "public") with
  | .str s => if isBlank s then .str "public" else .str s
  | j => j

/-- The columns that the policies of the board leave alone. -/
def castable (i : CreateBoardIntent) : Bool :=
  (attr i "permissions" (.obj [])).isObj && (attr i "description" (.str "")).str?.isSome &&
    (attr i "language" (.str "")).str?.any fitsVarchar &&
    match attr i "tags" (.arr []) with
    | .arr tags => tags.all fun tag => tag.str?.isSome
    | _ => false

/-- `ForumHostBoard.changeset` of a new board -/
def newBoard (C : HostConfig) (i : CreateBoardIntent) (slug : String) (boardId : ℕ) :
    Option ForumHostBoard :=
  match attr i "posting_policy" C.postingPolicy, attr i "moderation_policy" C.moderationPolicy,
      attr i "access_policy" BoardAccessPolicy.default, Visibility.ofJson (visibilityOf i),
      attr i "federation_policy" (.obj [("mode", .str "enabled")]) with
  | .obj posting, .obj moderation, .obj access, some visibility, .obj federation =>
    if castable i && validPostingPolicy (.obj posting) && validPollCreation (.obj posting) &&
        !(externalInclusion (.obj posting) && gatedMinPostTier (.obj posting)) &&
        ((Json.obj access).eqv BoardAccessPolicy.default ||
          (BoardAccessPolicy.validate C.encryptedBoardsEnabled (.obj access)).toBool) &&
        ((Json.obj access).fetch "content_visibility").eqv (.str visibility.toText) &&
        (((Json.obj access).fetch "federation").orElse .null).eqv
          (((Json.obj federation).fetch "mode").orElse .null) then
      some
        { boardId
          hostedBoardId := slug
          postingPolicy := .obj posting
          moderationPolicy := .obj moderation
          accessPolicy := .obj access
          accessPolicyVersion := 1
          contentVisibility := visibility
          encryptionEpoch := 0
          encryptionState :=
            if (attr i "content_visibility" (.str "public")).eqv (.str "end_to_end_encrypted")
            then .rotationRequired else .disabled
          federationPolicy := .obj federation }
    else none
  | _, _, _, _, _ => none

/-- The slug is one of a board, or the path of its canonical address. -/
def slugTaken (h : ForumHost) (slug : String) : Bool :=
  h.boards.rows.any fun b =>
    b.hostedBoardId == slug || String.ofList (Nat.toDigits 10 b.boardId) == slug

/-- The first version of the policy, as `insert_policy_version` writes it. -/
def firstVersion (P : Platform) (now : Time) (b : ForumHostBoard) : BoardPolicyVersion :=
  let policy := policyJson b.accessPolicy b.contentVisibility b.federationPolicy
  { hostedBoardId := b.hostedBoardId
    version := b.accessPolicyVersion
    policyHash := BoardGovernance.hashOf P policy
    canonicalPolicy := policy
    effectiveAt := now
    supersededAt := none }

/-- `resolve_accepted_intent` -/
def resolveAcceptedIntent (P : Platform) (i : CreateBoardIntent) (accepted : AcceptedIntent)
    (h : ForumHost) : Except BoardCreationError ForumHostBoard :=
  if accepted.payloadHash = payloadHash P i then
    match h.boards.get accepted.resultId with
    | some b => .ok b
    | none => .error .raised
  else .error .duplicateIntent

/-- The transaction for one slug; `none` when the slug is taken. -/
def createWithSlug (P : Platform) (C : HostConfig) (now : Time) (boardId : ℕ)
    (i : CreateBoardIntent) (slug : String) (h : ForumHost) :
    Option (Except BoardCreationError (ForumHostBoard × ForumHost)) :=
  match h.acceptedIntents.find? (·.intentId == i.intentId) with
  | some accepted => some ((resolveAcceptedIntent P i accepted h).map fun b => (b, h))
  | none =>
    if !([i.intentId, i.authorDid, i.title, slug].all fitsVarchar) then some (.error .raised)
    else
      match newBoard C i slug boardId with
      | none => some (.error .invalidBoard)
      | some b =>
        if slugTaken h slug then none
        else
          match h.boards.insert b with
          | none => some (.error .raised)
          | some boards => some (.ok (b, { h with
              boards
              policyVersions := h.policyVersions ++ [firstVersion P now b]
              acceptedIntents := h.acceptedIntents ++ [⟨i.authorDid, "create_board",
                "forum_host_board", slug, i.intentId, payloadHash P i⟩] }))

/-- The slugs in turn, from an attempt on. -/
def createFrom (P : Platform) (C : HostConfig) (now : Time) (boardId : ℕ) (i : CreateBoardIntent)
    (h : ForumHost) : ℕ → ℕ → Except BoardCreationError (ForumHostBoard × ForumHost)
  | _, 0 => .error (.slugUnavailable (slugify i.title))
  | attempt, left + 1 =>
    match createWithSlug P C now boardId i
        (String.ofList (slugCandidate (slugify i.title) attempt)) h with
    | some result => result
    | none => createFrom P C now boardId i h (attempt + 1) left

/-- `Store.create_board`; `boardId` is the number that the sequence gives. -/
def createBoard (P : Platform) (C : HostConfig) (now : Time) (boardId : ℕ) (i : CreateBoardIntent)
    (h : ForumHost) : Except BoardCreationError (ForumHostBoard × ForumHost) := do
  normalizeCreateBoardAttrs i
  createFrom P C now boardId i h 1 maxSlugAttempts

/-! ### What a creation changes -/

/-- A new board with its first version, besides what was there. -/
structure Created (P : Platform) (now : Time) (b : ForumHostBoard) (h h' : ForumHost) : Prop where
  version : b.accessPolicyVersion = 1
  access : ∃ f, b.accessPolicy = .obj f
  federation : ∃ f, b.federationPolicy = .obj f
  fresh : h.boards.get b.hostedBoardId = none
  boards : h'.boards.rows = h.boards.rows ++ [b]
  policyVersions : h'.policyVersions = h.policyVersions ++ [firstVersion P now b]

variable {C : HostConfig} {i : CreateBoardIntent} {slug : String} {boardId : ℕ} {b : ForumHostBoard}
  {h : ForumHost}

theorem newBoard_spec (h : newBoard C i slug boardId = some b) :
    b.hostedBoardId = slug ∧ b.accessPolicyVersion = 1 ∧ (∃ f, b.accessPolicy = .obj f) ∧
      ∃ f, b.federationPolicy = .obj f := by
  unfold newBoard at h
  split at h
  · split at h
    · cases h
      exact ⟨rfl, rfl, ⟨_, rfl⟩, ⟨_, rfl⟩⟩
    · cases h
  · cases h

theorem get_eq_none_of_slugTaken (hslug : slugTaken h slug = false) : h.boards.get slug = none := by
  rw [BoardTable.get, Table.find_eq_none]
  intro b hb
  rw [slugTaken, List.any_eq_false] at hslug
  have hne := hslug b hb
  rw [Bool.or_eq_true, not_or, Bool.not_eq_true] at hne
  exact hne.1

theorem createWithSlug_cases {P : Platform} {now : Time} {h' : ForumHost}
    (hok : createWithSlug P C now boardId i slug h = some (.ok (b, h'))) :
    h' = h ∨ Created P now b h h' := by
  unfold createWithSlug at hok
  split at hok
  · next accepted _ =>
    have hres := Option.some.inj hok
    generalize resolveAcceptedIntent P i accepted h = resolved at hres
    cases resolved with
    | error e => cases hres
    | ok c => exact .inl (Prod.mk.inj (Except.ok.inj hres)).2.symm
  split at hok
  · cases hok
  split at hok
  · cases hok
  next b' hnew =>
  split at hok
  · cases hok
  next hslug =>
  split at hok
  · cases hok
  next boards hinsert =>
  obtain ⟨rfl, rfl⟩ := Prod.mk.inj (Except.ok.inj (Option.some.inj hok))
  obtain ⟨hid, hversion, haccess, hfederation⟩ := newBoard_spec hnew
  have hrows : boards.rows = h.boards.rows ++ [b'] := Table.rows_of_commit hinsert
  rw [Bool.not_eq_true] at hslug
  exact .inr ⟨hversion, haccess, hfederation, hid ▸ get_eq_none_of_slugTaken hslug, hrows, rfl⟩

/-- **A creation that succeeds adds one board with its first version, or was made before.** -/
theorem createBoard_cases {P : Platform} {now : Time} {h' : ForumHost}
    (hok : createBoard P C now boardId i h = .ok (b, h')) : h' = h ∨ Created P now b h h' := by
  have hfrom : ∀ left attempt, createFrom P C now boardId i h attempt left = .ok (b, h') →
      h' = h ∨ Created P now b h h' := by
    intro left
    induction left with
    | zero =>
      intro attempt hok
      cases hok
    | succ left ih =>
      intro attempt hok
      unfold createFrom at hok
      split at hok
      · next result hresult =>
        rw [hok] at hresult
        exact createWithSlug_cases hresult
      · exact ih _ hok
  obtain ⟨_, -, hrest⟩ := bind_eq_ok.1 hok
  exact hfrom _ _ hrest

end BoardCreation

end Ansible
