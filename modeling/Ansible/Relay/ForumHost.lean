import Ansible.Lib.Table
import Ansible.Relay.BoardAccessPolicy
import Ansible.Relay.SigVerifier

/-!
# The tables of a forum host

The boards with their policies, the versions of policies that were scheduled, the accepted
intents, which say who created a board, and the reports and actions of the moderators.

## Main definitions

* `HostConfig` — the application environment of the forum host.
* `ForumHostBoard`, `BoardTable` — the boards, under two unique keys.
* `ForumHost` — the state; `ForumHost.empty` — that of a new host.
* `ForumHost.activateDueBoardPolicy` — the version that has become effective is applied.
* `ForumHost.getBoard` — the lookup of a board by the identifiers that texts use for it.

## Main results

* `mem_getBoard` — a board that is found is one of the boards after the lookup.
* `getBoard_frame` — a lookup changes the policies of boards and nothing else.
-/

namespace Ansible

structure HostConfig where
  encryptedBoardsEnabled : Bool := false
  forumHostOwnerDid : Option String := none
  /-- The default posting policy of new boards. -/
  postingPolicy : Json := .obj [("min_trust_tier", .str "self_custody_did")]
  /-- The default moderation policy of new boards. -/
  moderationPolicy : Json :=
    .obj [("reason_codes", .arr [.str "spam", .str "abuse", .str "illegal", .str "off_topic"]),
      ("appeals", .bool true)]

/-! ### Boards -/

inductive EncryptionState
  | disabled
  | rotationRequired
  | ready
  deriving DecidableEq, Repr

/-- A row of `forum_host_boards`. -/
structure ForumHostBoard where
  boardId : ℕ
  hostedBoardId : String
  postingPolicy : Json
  moderationPolicy : Json
  accessPolicy : Json
  accessPolicyVersion : ℤ
  contentVisibility : Visibility
  encryptionEpoch : ℤ
  encryptionState : EncryptionState
  federationPolicy : Json

/-- What a new access policy leaves as it is. -/
def ForumHostBoard.core (b : ForumHostBoard) : ℕ × String × Json × Json :=
  (b.boardId, b.hostedBoardId, b.postingPolicy, b.moderationPolicy)

structure BoardIndexes (rows : List ForumHostBoard) : Prop where
  hosted_board_id : UniqueOn (·.hostedBoardId) (fun _ => true) rows
  board_id : UniqueOn (·.boardId) (fun _ => true) rows

instance : DecidablePred BoardIndexes := fun rows =>
  decidable_of_iff (UniqueOn (fun b : ForumHostBoard => b.hostedBoardId) (fun _ => true) rows ∧
    UniqueOn (·.boardId) (fun _ => true) rows) ⟨fun h => ⟨h.1, h.2⟩, fun h => ⟨h.1, h.2⟩⟩

abbrev BoardTable := Table ForumHostBoard BoardIndexes

/-- An update of the board that keeps both of its keys. -/
structure BoardUpdate where
  apply : ForumHostBoard → ForumHostBoard
  hostedBoardId_eq : ∀ b, (apply b).hostedBoardId = b.hostedBoardId
  boardId_eq : ∀ b, (apply b).boardId = b.boardId

/-- A row after the update of the board `id`. -/
def BoardUpdate.at (u : BoardUpdate) (id : String) (b : ForumHostBoard) : ForumHostBoard :=
  if b.hostedBoardId = id then u.apply b else b

theorem BoardUpdate.at_hostedBoardId (u : BoardUpdate) (id : String) (b : ForumHostBoard) :
    (u.at id b).hostedBoardId = b.hostedBoardId := by
  unfold BoardUpdate.at
  split
  · exact u.hostedBoardId_eq b
  · rfl

theorem BoardUpdate.at_boardId (u : BoardUpdate) (id : String) (b : ForumHostBoard) :
    (u.at id b).boardId = b.boardId := by
  unfold BoardUpdate.at
  split
  · exact u.boardId_eq b
  · rfl

namespace BoardTable

/-- `Repo.update` of the board `id` -/
def modify (t : BoardTable) (id : String) (u : BoardUpdate) : BoardTable where
  rows := t.rows.map (u.at id)
  valid := ⟨t.valid.hosted_board_id.map (u.at_hostedBoardId id) fun _ h => h,
    t.valid.board_id.map (u.at_boardId id) fun _ h => h⟩

/-- `Repo.get(ForumHostBoard, id)` -/
def get (t : BoardTable) (id : String) : Option ForumHostBoard := t.find (·.hostedBoardId == id)

/-- `Repo.get_by(ForumHostBoard, board_id: id)` -/
def getByBoardId (t : BoardTable) (id : ℕ) : Option ForumHostBoard := t.find (·.boardId == id)

theorem get_eq_some {t : BoardTable} {id : String} {b : ForumHostBoard} :
    t.get id = some b ↔ b ∈ t.rows ∧ b.hostedBoardId = id := by
  rw [get, Table.find_eq_some_iff]
  · simp
  · intro x hx y hy hpx hpy
    rw [beq_iff_eq] at hpx hpy
    exact t.valid.hosted_board_id.eq hx hy rfl rfl (hpx.trans hpy.symm)

@[simp] theorem rows_modify (t : BoardTable) (id : String) (u : BoardUpdate) :
    (t.modify id u).rows = t.rows.map (u.at id) := rfl

end BoardTable

/-! ### The other tables -/

/-- A row of `forum_host_board_policy_versions`. -/
structure BoardPolicyVersion where
  hostedBoardId : String
  version : ℤ
  policyHash : Text
  canonicalPolicy : Json
  effectiveAt : Time
  supersededAt : Option Time

/-- A row of `forum_host_accepted_intents`. -/
structure AcceptedIntent where
  authorDid : String
  action : String
  resultKind : String
  resultId : String
  intentId : String
  payloadHash : Text

inductive ReportStatus
  | isOpen
  | actioned
  | dismissed
  deriving DecidableEq, Repr

/-- A row of `forum_host_reports`. -/
structure Report where
  id : ℤ
  targetKind : String
  targetRef : String
  boardId : String
  reporterDid : String
  reasonCode : String
  note : Option String
  status : ReportStatus
  deriving DecidableEq, Repr

inductive ModerationActionName
  | dismissReport
  | removePostFromBoard
  | lockThread
  | unlockThread
  deriving DecidableEq, Repr

/-- A row of `forum_host_moderation_actions`. -/
structure ModerationAction where
  action : ModerationActionName
  targetRef : String
  boardId : String
  moderatorDid : String
  reasonCode : String
  reportId : Option ℤ
  deriving DecidableEq, Repr

abbrev ReportTable := Table Report (UniqueOn (·.id) fun _ => true)

/-- The tables of a host; actions are in the order of their ids. -/
structure ForumHost where
  boards : BoardTable
  policyVersions : List BoardPolicyVersion
  acceptedIntents : List AcceptedIntent
  reports : ReportTable
  moderationActions : List ModerationAction

namespace ForumHost

def empty : ForumHost where
  boards := ⟨[], by decide⟩
  policyVersions := []
  acceptedIntents := []
  reports := ⟨[], by decide⟩
  moderationActions := []

/-! ### Versions of policies -/

/-- The columns that a version of a policy sets, where they can hold its values. -/
def policyChanges (policy : Json) : Option (Json × Visibility × Json) :=
  match policy.fetch "access_policy", Visibility.ofJson (policy.fetch "content_visibility"),
      policy.fetch "federation_policy" with
  | .obj access, some visibility, .obj federation => some (.obj access, visibility, .obj federation)
  | _, _, _ => none

/-- The board under a policy, of which a protected one has to be encrypted anew. -/
def applyPolicyVersion (access : Json) (visibility : Visibility) (federation : Json) :
    BoardUpdate where
  apply b := { b with
    accessPolicy := access
    contentVisibility := visibility
    federationPolicy := federation
    accessPolicyVersion := b.accessPolicyVersion + 1
    encryptionState :=
      if visibility = .endToEndEncrypted then .rotationRequired else .disabled }
  hostedBoardId_eq _ := rfl
  boardId_eq _ := rfl

/-- `ForumHostBoard.changeset`: a new access policy is valid, and the columns agree with it. -/
def policyAdmissible (C : HostConfig) (board : ForumHostBoard) (access : Json)
    (visibility : Visibility) (federation : Json) : Bool :=
  (access.eqv board.accessPolicy ||
    (BoardAccessPolicy.validate C.encryptedBoardsEnabled access).toBool) &&
  (access.fetch "content_visibility").eqv (.str visibility.toText) &&
  ((access.fetch "federation").orElse .null).eqv ((federation.fetch "mode").orElse .null)

/-- `activate_policy_version`: the board is changed and earlier versions are superseded. -/
def activatePolicyVersion (C : HostConfig) (now : Time) (board : ForumHostBoard)
    (version : BoardPolicyVersion) (h : ForumHost) : ForumHostBoard × ForumHost :=
  match policyChanges version.canonicalPolicy with
  | none => (board, h)
  | some (access, visibility, federation) =>
    if policyAdmissible C board access visibility federation then
      let u := applyPolicyVersion access visibility federation
      (u.apply board, { h with
        boards := h.boards.modify board.hostedBoardId u
        policyVersions := h.policyVersions.map fun v =>
          if v.hostedBoardId = board.hostedBoardId ∧ v.version < version.version ∧
            v.supersededAt = none then { v with supersededAt := some now } else v })
    else (board, h)

/-- The next version of the policy, once it is effective. -/
def dueVersion (now : Time) (board : ForumHostBoard) (h : ForumHost) : Option BoardPolicyVersion :=
  h.policyVersions.find? fun v =>
    v.hostedBoardId == board.hostedBoardId && v.version == board.accessPolicyVersion + 1 &&
      decide (v.effectiveAt ≤ now) && v.supersededAt.isNone

def activateDueBoardPolicy (C : HostConfig) (now : Time) (board : ForumHostBoard) (h : ForumHost) :
    ForumHostBoard × ForumHost :=
  match dueVersion now board h with
  | none => (board, h)
  | some version => activatePolicyVersion C now board version h

/-! ### Lookups -/

/-- The digits of a number, in base ten. -/
def parseDigits (b : Binary) : Option ℕ :=
  if b ≠ [] ∧ b.all isDigitByte = true then
    some (b.foldl (fun n x => n * 10 + (x.toNat - 48)) 0)
  else none

/-- `Integer.parse` of a whole text that is a positive integer -/
def parsePositive (s : Binary) : Option ℕ :=
  let n := match s with
    | 43 :: digits => parseDigits digits
    | digits => parseDigits digits
  n.filter (0 < ·)

def canonicalBoard (id : Binary) (h : ForumHost) : Option ForumHostBoard :=
  (parsePositive id).bind h.boards.getByBoardId

/-- What follows the first separator. -/
def compositeSuffix (id : Binary) : Option Binary :=
  match id.dropWhile (· != 95) with
  | _ :: b :: r => some (b :: r)
  | _ => none

/-- `Repo.get` by the bytes of an identifier -/
def getByBytes (id : Binary) (h : ForumHost) : Option ForumHostBoard :=
  h.boards.find fun b => bytes b.hostedBoardId == id

def getCompositeBoard (id : Binary) (h : ForumHost) : Option ForumHostBoard :=
  (compositeSuffix id).bind fun suffix => (canonicalBoard suffix h).or (getByBytes suffix h)

/-- The board that an identifier names: its number, its key, or either after a separator. -/
def namedBoard (id : String) (h : ForumHost) : Option ForumHostBoard :=
  ((canonicalBoard (bytes id) h).or (getByBytes (bytes id) h)).or (getCompositeBoard (bytes id) h)

/-- `PostingGate.get_board`, which applies a policy that is due. -/
def getBoard (C : HostConfig) (now : Time) (id : Json) (h : ForumHost) :
    Option ForumHostBoard × ForumHost :=
  match id with
  | .str id =>
    match namedBoard id h with
    | some board =>
      let r := activateDueBoardPolicy C now board h
      (some r.1, r.2)
    | none => (none, h)
  | _ => (none, h)

/-! ### What a lookup changes -/

/-- The two hosts differ at most in the access policies of their boards. -/
structure SameForum (h h' : ForumHost) : Prop where
  acceptedIntents : h'.acceptedIntents = h.acceptedIntents
  reports : h'.reports = h.reports
  moderationActions : h'.moderationActions = h.moderationActions
  boards : h'.boards.rows.map ForumHostBoard.core = h.boards.rows.map ForumHostBoard.core

theorem SameForum.refl (h : ForumHost) : h.SameForum h := ⟨rfl, rfl, rfl, rfl⟩

theorem activateDueBoardPolicy_frame (C : HostConfig) (now : Time) (board : ForumHostBoard)
    (h : ForumHost) : h.SameForum (activateDueBoardPolicy C now board h).2 := by
  unfold activateDueBoardPolicy activatePolicyVersion
  repeat' split
  all_goals try exact SameForum.refl h
  refine ⟨rfl, rfl, rfl, ?_⟩
  dsimp only
  rw [BoardTable.rows_modify, List.map_map]
  refine List.map_congr_left fun b _ => ?_
  simp only [Function.comp_apply, BoardUpdate.at]
  split <;> rfl

theorem SameForum.exists_board {h h' : ForumHost} (hsame : h.SameForum h') {b : ForumHostBoard}
    (hb : b ∈ h'.boards.rows) : ∃ b₀ ∈ h.boards.rows, b₀.core = b.core := by
  have hmem : b.core ∈ h.boards.rows.map ForumHostBoard.core :=
    hsame.boards ▸ List.mem_map_of_mem hb
  exact List.mem_map.1 hmem

theorem getBoard_frame (C : HostConfig) (now : Time) (id : Json) (h : ForumHost) :
    h.SameForum (getBoard C now id h).2 := by
  unfold getBoard
  split
  · split
    · exact activateDueBoardPolicy_frame C now _ h
    · exact SameForum.refl h
  · exact SameForum.refl h

theorem mem_namedBoard {id : String} {h : ForumHost} {b : ForumHostBoard}
    (hb : namedBoard id h = some b) : b ∈ h.boards.rows := by
  have hfind : ∀ i, (canonicalBoard i h).or (getByBytes i h) = some b → b ∈ h.boards.rows := by
    intro i hi
    rcases Option.or_eq_some_iff.1 hi with hc | ⟨-, hg⟩
    · obtain ⟨n, -, hn⟩ := Option.bind_eq_some_iff.1 hc
      exact Table.mem_of_find hn
    · exact Table.mem_of_find hg
  rcases Option.or_eq_some_iff.1 hb with hb | ⟨-, hb⟩
  · exact hfind _ hb
  · obtain ⟨suffix, -, hs⟩ := Option.bind_eq_some_iff.1 hb
    exact hfind _ hs

/-- **A board that is found is one of the boards after the lookup.** -/
theorem mem_getBoard {C : HostConfig} {now : Time} {id : Json} {h : ForumHost}
    {b : ForumHostBoard} (hb : (getBoard C now id h).1 = some b) :
    b ∈ (getBoard C now id h).2.boards.rows := by
  unfold getBoard at hb ⊢
  split at hb
  · next id =>
    dsimp only at hb ⊢
    split at hb
    · next board hnamed =>
      cases hb
      have hmem := mem_namedBoard hnamed
      unfold activateDueBoardPolicy activatePolicyVersion
      repeat' split
      all_goals try exact hmem
      dsimp only
      rw [BoardTable.rows_modify]
      exact List.mem_map.2 ⟨board, hmem, if_pos rfl⟩
    · cases hb
  · cases hb

end ForumHost

end Ansible
