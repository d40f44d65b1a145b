import Ansible.Relay.ForumHost
import Ansible.Relay.OpHistory

/-!
# Moderation

The actions of moderators are rows of an audit table, from which everything that is served is
derived: posts that are removed, threads that are locked.  An action names its board, its target
and the report it answers independently of each other, and the effects are read back without a
board.

## Main definitions

* `Moderation.moderator` — who moderates a board.
* `Moderation.createAction` — an action of a moderator, with the statuses it changes.
* `Moderation.removalOf`, `lockOf` — the effects of the actions on a target.
* `Moderation.overlayOp`, `authorizeThreadPost` — what is served and what is refused for them.

## Main results

* `Moderation.scoped_iff` — **an accepted action changes only what belongs to the boards of its
  moderator exactly when its report and its target belong to them.**
-/

namespace Ansible

namespace Moderation

/-! ### Moderators -/

def hostOwner (C : HostConfig) (did : String) : Bool := C.forumHostOwnerDid == some did

/-- The accepted intent that created the board is by the DID. -/
def boardCreator (h : ForumHost) (did hostedBoardId : String) : Bool :=
  h.acceptedIntents.any fun i => i.authorDid == did && i.action == "create_board" &&
    i.resultKind == "forum_host_board" && i.resultId == hostedBoardId

def policyModerators (board : ForumHostBoard) : List String :=
  match board.moderationPolicy.fetch "moderators" with
  | .arr moderators => moderators.filterMap Json.str?
  | _ => []

def moderator (C : HostConfig) (did : String) (board : ForumHostBoard) (h : ForumHost) : Bool :=
  hostOwner C did || boardCreator h did board.hostedBoardId || (policyModerators board).contains did

/-! ### Actions -/

inductive ActionError
  | invalidAction
  | invalidReasonCode
  | unknownTarget
  | notBoardModerator
  | unknownReport
  deriving DecidableEq, Repr

/-- The attributes of an action; the moderator is the subject of the session. -/
structure ActionAttrs where
  action : Json
  targetRef : Json
  boardId : Json
  moderatorDid : String
  reasonCode : Json
  reportId : Option ℤ

def reasonCodes : List String :=
  ["spam", "harassment", "illegal_content", "off_topic", "impersonation", "other"]

def actionOf : Json → Option ModerationActionName
  | .str s =>
    if s = "dismiss_report" then some .dismissReport
    else if s = "remove_post_from_board" then some .removePostFromBoard
    else if s = "lock_thread" then some .lockThread
    else if s = "unlock_thread" then some .unlockThread
    else none
  | _ => none

def validateActionName (action : Json) : Except ActionError ModerationActionName :=
  match actionOf action with
  | some name => .ok name
  | none => .error .invalidAction

def validateActionReason : Json → Except ActionError String
  | .str code => if reasonCodes.contains code then .ok code else .error .invalidReasonCode
  | _ => .error .invalidReasonCode

def resolveBoard (C : HostConfig) (now : Time) (id : Json) :
    Checked ForumHost ActionError ForumHostBoard := fun h =>
  match ForumHost.getBoard C now id h with
  | (some board, h) => (.ok board, h)
  | (none, h) => (.error .unknownTarget, h)

def authorizeModerator (C : HostConfig) (did : String) (board : ForumHostBoard) :
    Checked ForumHost ActionError Unit :=
  .look fun h => ensure (moderator C did board h) .notBoardModerator

def validateTargetRef : Json → Except ActionError String
  | .str ref => if isBlank ref then .error .unknownTarget else .ok ref
  | _ => .error .unknownTarget

/-- The report of any board is accepted.  Only a dismissal needs one. -/
def resolveReport (action : ModerationActionName) (reportId : Option ℤ) :
    Checked ForumHost ActionError Unit :=
  .look fun h =>
    match reportId with
    | none => ensure (action != .dismissReport) .unknownReport
    | some id => ensure (h.reports.rows.any (·.id == id)) .unknownReport

/-- The status that the action gives to the report it names. -/
def statusOf : ModerationActionName → ReportStatus
  | .dismissReport => .dismissed
  | _ => .actioned

/-- The open reports on the target of a removal or a lock, on the board of the action. -/
def clears (a : ModerationAction) (r : Report) : Bool :=
  (a.action == .removePostFromBoard || a.action == .lockThread) &&
    r.targetRef == a.targetRef && r.boardId == a.boardId && r.status == .isOpen

/-- `transition_reports` for one report: the one named first, then the queue of the target. -/
def transition (a : ModerationAction) (r : Report) : Report :=
  let r := if a.reportId = some r.id then { r with status := statusOf a.action } else r
  if clears a r then { r with status := .actioned } else r

theorem transition_id (a : ModerationAction) (r : Report) : (transition a r).id = r.id := by
  unfold transition
  dsimp only
  split_ifs <;> rfl

def transitionReports (a : ModerationAction) (t : ReportTable) : ReportTable where
  rows := t.rows.map (transition a)
  valid := t.valid.map (transition_id a) fun _ h => h

/-- The transaction of an action: the audit row and the statuses of the reports. -/
def insertAction (a : ModerationAction) : Checked ForumHost ActionError ModerationAction := fun h =>
  (.ok a, { h with
    moderationActions := h.moderationActions ++ [a]
    reports := transitionReports a h.reports })

def createAction (C : HostConfig) (now : Time) (attrs : ActionAttrs) :
    Checked ForumHost ActionError ModerationAction := do
  let action ← .lift (validateActionName attrs.action)
  let reasonCode ← .lift (validateActionReason attrs.reasonCode)
  let board ← resolveBoard C now attrs.boardId
  authorizeModerator C attrs.moderatorDid board
  let targetRef ← .lift (validateTargetRef attrs.targetRef)
  resolveReport action attrs.reportId
  insertAction
    { action, targetRef, boardId := board.hostedBoardId, moderatorDid := attrs.moderatorDid,
      reasonCode, reportId := attrs.reportId }

/-! ### Effects -/

/-- The reason of the last removal of the target. -/
def removalOf (actions : List ModerationAction) (ref : String) : Option String :=
  actions.foldl (fun reason a =>
    if a.action = .removePostFromBoard ∧ a.targetRef = ref then some a.reasonCode else reason) none

/-- The reason of the lock of the target, when its last lock or unlock is a lock. -/
def lockOf (actions : List ModerationAction) (ref : String) : Option String :=
  actions.foldl (fun reason a =>
    if a.targetRef = ref then
      match a.action with
      | .lockThread => some a.reasonCode
      | .unlockThread => none
      | _ => reason
    else reason) none

/-- `none` stands for `:ok`, a reason for a locked thread. -/
def authorizeThreadPost (threadId : Json) (h : ForumHost) : Option String :=
  match threadId with
  | .str id => lockOf h.moderationActions id
  | _ => none

/-- An op as it is served. -/
structure ServedOp where
  op : OpStore.Op
  payload : Option String
  signature : Option String
  removed : Option String
  locked : Option String

/-- A removed op is served as a tombstone, a thread with its lock. -/
def overlayOp (h : ForumHost) (op : OpStore.Op) : ServedOp :=
  match removalOf h.moderationActions op.entityId with
  | some reason =>
    { op, payload := none, signature := none, removed := some reason, locked := none }
  | none =>
    { op, payload := some op.payload, signature := some op.signature, removed := none,
      locked :=
        if op.entityType = "thread" then lockOf h.moderationActions op.entityId else none }

@[simp] theorem removalOf_append (actions : List ModerationAction) (a : ModerationAction)
    (ref : String) : removalOf (actions ++ [a]) ref =
      if a.action = .removePostFromBoard ∧ a.targetRef = ref then some a.reasonCode
      else removalOf actions ref := by
  simp [removalOf, List.foldl_append]

@[simp] theorem lockOf_append (actions : List ModerationAction) (a : ModerationAction)
    (ref : String) : lockOf (actions ++ [a]) ref =
      if a.targetRef = ref then
        match a.action with
        | .lockThread => some a.reasonCode
        | .unlockThread => none
        | _ => lockOf actions ref
      else lockOf actions ref := by
  simp [lockOf, List.foldl_append]

/-! ### What an accepted action does -/

/-- An accepted action: its board, its moderator, and the state in which it was written. -/
structure Accepted (C : HostConfig) (now : Time) (attrs : ActionAttrs) (h : ForumHost)
    (a : ModerationAction) (h' : ForumHost) : Prop where
  board : ∃ b t, ForumHost.getBoard C now attrs.boardId h = (some b, t) ∧
    b.hostedBoardId = a.boardId ∧ moderator C a.moderatorDid b t = true ∧
    (insertAction a t).2 = h'
  moderatorDid : a.moderatorDid = attrs.moderatorDid
  reportId : a.reportId = attrs.reportId

theorem createAction_eq_ok {C : HostConfig} {now : Time} {attrs : ActionAttrs} {h h' : ForumHost}
    {a : ModerationAction} (hok : createAction C now attrs h = (.ok a, h')) :
    Accepted C now attrs h a h' := by
  obtain ⟨action, t₁, haction, hok₁⟩ := Checked.bind_eq_ok.1 hok
  obtain ⟨reason, t₂, hreason, hok₂⟩ := Checked.bind_eq_ok.1 hok₁
  obtain ⟨board, t₃, hboard, hok₃⟩ := Checked.bind_eq_ok.1 hok₂
  obtain ⟨_, t₄, hmoderator, hok₄⟩ := Checked.bind_eq_ok.1 hok₃
  obtain ⟨ref, t₅, href, hok₅⟩ := Checked.bind_eq_ok.1 hok₄
  obtain ⟨_, t₆, hreport, hok₆⟩ := Checked.bind_eq_ok.1 hok₅
  obtain ⟨hmoderator, h₄⟩ := Checked.look_eq_ok.1 hmoderator
  have h₆ : t₆ = t₃ :=
    ((Checked.look_eq_ok.1 hreport).2.trans (Checked.lift_eq_ok.1 href).2).trans h₄
  have h₂ : t₂ = h := (Checked.lift_eq_ok.1 hreason).2.trans (Checked.lift_eq_ok.1 haction).2
  subst h₆ h₂
  obtain ⟨ha, hstate⟩ := Prod.mk.inj hok₆
  cases ha
  have hfound : ForumHost.getBoard C now attrs.boardId t₂ = (some board, t₆) := by
    unfold resolveBoard at hboard
    split at hboard
    · next hget =>
      obtain ⟨hb, rfl⟩ := Prod.mk.inj hboard
      cases hb
      exact hget
    · cases hboard
  exact ⟨⟨board, t₆, hfound, rfl, ensure_eq_ok.1 hmoderator, hstate⟩, rfl, rfl⟩

/-- The DID moderates a board of that key. -/
def Moderates (C : HostConfig) (h : ForumHost) (did boardId : String) : Prop :=
  ∃ b ∈ h.boards.rows, b.hostedBoardId = boardId ∧ moderator C did b h = true

theorem moderator_eq_of_core {C : HostConfig} {did : String} {b b' : ForumHostBoard}
    {h h' : ForumHost} (hcore : b'.core = b.core) (hsame : h.SameForum h') :
    moderator C did b' h' = moderator C did b h := by
  simp only [ForumHostBoard.core, Prod.mk.injEq] at hcore
  obtain ⟨-, hid, -, hpolicy⟩ := hcore
  rw [moderator, moderator, boardCreator, boardCreator, hsame.acceptedIntents, hid,
    policyModerators, policyModerators, hpolicy]

namespace Accepted

variable {C : HostConfig} {now : Time} {attrs : ActionAttrs} {h h' : ForumHost}
  {a : ModerationAction} (hacc : Accepted C now attrs h a h')
include hacc

theorem actions : h'.moderationActions = h.moderationActions ++ [a] := by
  obtain ⟨b, t, hget, -, -, rfl⟩ := hacc.board
  have hsame := ForumHost.getBoard_frame C now attrs.boardId h
  rw [hget] at hsame
  exact congrArg (· ++ [a]) hsame.moderationActions

theorem reports : h'.reports = transitionReports a h.reports := by
  obtain ⟨b, t, hget, -, -, rfl⟩ := hacc.board
  have hsame := ForumHost.getBoard_frame C now attrs.boardId h
  rw [hget] at hsame
  exact congrArg (transitionReports a) hsame.reports

theorem moderates : Moderates C h a.moderatorDid a.boardId := by
  obtain ⟨b, t, hget, hid, hmoderator, -⟩ := hacc.board
  have hsame := ForumHost.getBoard_frame C now attrs.boardId h
  have hmem := ForumHost.mem_getBoard (congrArg Prod.fst hget)
  rw [hget] at hsame hmem
  obtain ⟨b₀, hb₀, hcore⟩ := hsame.exists_board hmem
  refine ⟨b₀, hb₀, ?_, ?_⟩
  · exact (congrArg (fun c => c.2.1) hcore).trans hid
  · rw [← hmoderator, moderator_eq_of_core hcore.symm hsame]

end Accepted

/-! ### Scope -/

/-- The board of a piece of content: the one that the payload of its create op names. -/
def contentBoard (h : ForumHost) (ops : List OpStore.Op) (entityType entityId : String) :
    Option String := do
  let op ← OpStore.createOp ops entityType entityId
  let decoded ← payloadObject (.str op.payload)
  let id ← (boardIdOf decoded).str?
  let board ← h.namedBoard id
  return board.hostedBoardId

/-- An action changes the statuses of reports on boards of its moderator only, and what is served
or authorized of the content of its board only. -/
structure Scoped (C : HostConfig) (ops : List OpStore.Op) (h h' : ForumHost)
    (did board : String) : Prop where
  statuses : ∀ r ∈ h.reports.rows, ∀ r' ∈ h'.reports.rows, r'.id = r.id → r'.status ≠ r.status →
    Moderates C h did r.boardId
  overlay : ∀ op ∈ ops, overlayOp h' op ≠ overlayOp h op →
    contentBoard h ops op.entityType op.entityId = some board
  posting : ∀ id, authorizeThreadPost id h' ≠ authorizeThreadPost id h →
    ∃ thread, id = .str thread ∧ contentBoard h ops "thread" thread = some board

/-- The report of the action is on a board of its moderator, and its target is content of its
board, unless they are already as the action leaves them. -/
structure InScope (C : HostConfig) (ops : List OpStore.Op) (h : ForumHost) (a : ModerationAction) :
    Prop where
  report : ∀ r ∈ h.reports.rows, a.reportId = some r.id → r.status ≠ statusOf a.action →
    Moderates C h a.moderatorDid r.boardId
  removal : a.action = .removePostFromBoard →
    removalOf h.moderationActions a.targetRef ≠ some a.reasonCode →
      ∀ op ∈ ops, op.entityId = a.targetRef →
        contentBoard h ops op.entityType op.entityId = some a.boardId
  lock : a.action = .lockThread → lockOf h.moderationActions a.targetRef ≠ some a.reasonCode →
    contentBoard h ops "thread" a.targetRef = some a.boardId
  unlock : a.action = .unlockThread → lockOf h.moderationActions a.targetRef ≠ none →
    contentBoard h ops "thread" a.targetRef = some a.boardId

theorem transition_named {a : ModerationAction} {r : Report} (h : a.reportId = some r.id) :
    (transition a r).status = statusOf a.action := by
  unfold transition
  rw [if_pos h]
  dsimp only
  split
  · next hclears =>
    simp only [clears, Bool.and_eq_true, Bool.or_eq_true, beq_iff_eq] at hclears
    rcases hclears.1.1.1 with haction | haction
    · rw [haction]
      rfl
    · rw [haction]
      rfl
  · rfl

theorem transition_unnamed {a : ModerationAction} {r : Report} (h : a.reportId ≠ some r.id)
    (hstatus : (transition a r).status ≠ r.status) : r.boardId = a.boardId := by
  unfold transition at hstatus
  rw [if_neg h] at hstatus
  dsimp only at hstatus
  split at hstatus
  · next hclears =>
    simp only [clears, Bool.and_eq_true, beq_iff_eq] at hclears
    exact hclears.1.2
  · exact absurd rfl hstatus

@[simp] theorem overlayOp_removed (h : ForumHost) (op : OpStore.Op) :
    (overlayOp h op).removed = removalOf h.moderationActions op.entityId := by
  unfold overlayOp
  split
  · next hr => exact hr.symm
  · next hr => exact hr.symm

/-- What is served of an op depends on the effects on its entity only. -/
theorem overlayOp_congr {h h' : ForumHost} {op : OpStore.Op}
    (hremoval : removalOf h'.moderationActions op.entityId
      = removalOf h.moderationActions op.entityId)
    (hlock : op.entityType = "thread" →
      lockOf h'.moderationActions op.entityId = lockOf h.moderationActions op.entityId) :
    overlayOp h' op = overlayOp h op := by
  unfold overlayOp
  rw [hremoval]
  by_cases ht : op.entityType = "thread"
  · rw [if_pos ht, if_pos ht, hlock ht]
  · rw [if_neg ht, if_neg ht]

section Iff

variable {C : HostConfig} {now : Time} {attrs : ActionAttrs} {h h' : ForumHost}
  {a : ModerationAction} {ops : List OpStore.Op}

theorem InScope.statuses (hin : InScope C ops h a) (hacc : Accepted C now attrs h a h')
    {r r' : Report} (hr : r ∈ h.reports.rows) (hr' : r' ∈ h'.reports.rows) (hid : r'.id = r.id)
    (hstatus : r'.status ≠ r.status) : Moderates C h a.moderatorDid r.boardId := by
  rw [hacc.reports] at hr'
  obtain ⟨r₀, hr₀, rfl⟩ := List.mem_map.1 hr'
  rw [transition_id] at hid
  obtain rfl := h.reports.valid.eq hr₀ hr rfl rfl hid
  by_cases hnamed : a.reportId = some r₀.id
  · rw [transition_named hnamed] at hstatus
    exact hin.report r₀ hr hnamed (Ne.symm hstatus)
  · rw [transition_unnamed hnamed hstatus]
    exact hacc.moderates

/-- The lock of a thread changes when the action locks or unlocks it. -/
theorem InScope.of_lock_ne (hin : InScope C ops h a) (hacc : Accepted C now attrs h a h')
    {ref : String}
    (hne : lockOf h'.moderationActions ref ≠ lockOf h.moderationActions ref) :
    contentBoard h ops "thread" ref = some a.boardId := by
  rw [hacc.actions, lockOf_append] at hne
  split at hne
  · next htarget =>
    subst htarget
    cases haction : a.action with
    | dismissReport => exact absurd (by rw [haction]) hne
    | removePostFromBoard => exact absurd (by rw [haction]) hne
    | lockThread =>
      rw [haction] at hne
      exact hin.lock haction (Ne.symm hne)
    | unlockThread =>
      rw [haction] at hne
      exact hin.unlock haction (Ne.symm hne)
  · exact absurd rfl hne

theorem InScope.overlay (hin : InScope C ops h a) (hacc : Accepted C now attrs h a h')
    {op : OpStore.Op} (hop : op ∈ ops) (hne : overlayOp h' op ≠ overlayOp h op) :
    contentBoard h ops op.entityType op.entityId = some a.boardId := by
  by_cases hremoval : removalOf h'.moderationActions op.entityId
      = removalOf h.moderationActions op.entityId
  · -- the op is served under another lock
    by_cases ht : op.entityType = "thread"
    · rw [ht]
      refine hin.of_lock_ne hacc fun hlock => hne (overlayOp_congr hremoval fun _ => hlock)
    · exact absurd (overlayOp_congr hremoval fun h => absurd h ht) hne
  · rw [hacc.actions, removalOf_append] at hremoval
    split at hremoval
    · next hremoved =>
      exact hin.removal hremoved.1 (hremoved.2 ▸ Ne.symm hremoval) op hop hremoved.2.symm
    · exact absurd rfl hremoval

/-- **An accepted action changes only what belongs to the boards of its moderator exactly when
its report and its target belong to them.** -/
theorem scoped_iff (hok : createAction C now attrs h = (.ok a, h')) (ops : List OpStore.Op) :
    Scoped C ops h h' a.moderatorDid a.boardId ↔ InScope C ops h a := by
  have hacc := createAction_eq_ok hok
  constructor
  · intro hs
    refine ⟨fun r hr hnamed hstatus => ?_, fun haction hne op hop href => ?_,
      fun haction hne => ?_, fun haction hne => ?_⟩
    · refine hs.statuses r hr (transition a r) ?_ (transition_id a r) ?_
      · rw [hacc.reports]
        exact List.mem_map_of_mem hr
      · rw [transition_named hnamed]
        exact Ne.symm hstatus
    · refine hs.overlay op hop fun heq => hne ?_
      have hremoved := congrArg ServedOp.removed heq
      rw [overlayOp_removed, overlayOp_removed, hacc.actions, removalOf_append,
        if_pos ⟨haction, href.symm⟩, href] at hremoved
      exact hremoved.symm
    · obtain ⟨thread, hthread, hboard⟩ := hs.posting (.str a.targetRef) (by
        rw [authorizeThreadPost, authorizeThreadPost, hacc.actions, lockOf_append, if_pos rfl,
          haction]
        exact Ne.symm hne)
      rwa [← Json.str.inj hthread] at hboard
    · obtain ⟨thread, hthread, hboard⟩ := hs.posting (.str a.targetRef) (by
        rw [authorizeThreadPost, authorizeThreadPost, hacc.actions, lockOf_append, if_pos rfl,
          haction]
        exact Ne.symm hne)
      rwa [← Json.str.inj hthread] at hboard
  · intro hin
    refine ⟨fun r hr r' hr' hid hstatus => hin.statuses hacc hr hr' hid hstatus,
      fun op hop hne => hin.overlay hacc hop hne, fun id hne => ?_⟩
    cases id with
    | str thread => exact ⟨thread, rfl, hin.of_lock_ne hacc hne⟩
    | _ => exact absurd rfl hne

end Iff

/-! ### Two boards -/

/-- A public board under the default policy. -/
def toyBoard (boardId : ℕ) (hostedBoardId : String) : ForumHostBoard where
  boardId := boardId
  hostedBoardId := hostedBoardId
  postingPolicy := .obj []
  moderationPolicy := .obj []
  accessPolicy := BoardAccessPolicy.default
  accessPolicyVersion := 1
  contentVisibility := .isPublic
  encryptionEpoch := 0
  encryptionState := .disabled
  federationPolicy := .obj [("mode", .str "enabled")]

/-- Alice has created the board `alpha` and Bob the board `beta`, on which there is a report. -/
def toyHost : ForumHost where
  boards := ⟨[toyBoard 1 "alpha", toyBoard 2 "beta"], by decide⟩
  policyVersions := []
  acceptedIntents := [⟨"did:plc:alice", "create_board", "forum_host_board", "alpha", "i-1", []⟩,
    ⟨"did:plc:bob", "create_board", "forum_host_board", "beta", "i-2", []⟩]
  reports := ⟨[⟨7, "post", "post-1", "beta", "did:plc:carol", "spam", none, .isOpen⟩], by decide⟩
  moderationActions := []

/-- An action of Alice on her board. -/
def toyAction (action targetRef : String) (reportId : Option ℤ) : ActionAttrs where
  action := .str action
  targetRef := .str targetRef
  boardId := .str "alpha"
  moderatorDid := "did:plc:alice"
  reasonCode := .str "spam"
  reportId := reportId

/-- The log: a thread on the board `alpha`. -/
def toyOps : List OpStore.Op :=
  [⟨"op-1", "did:plc:carol", "thread", "thread-1", "insert",
    "\x7b\"boardId\":\"alpha\"\x7d", "sig", 1,
    "2026-01-01T00:00:00Z"⟩]

theorem scoped_toy : ∃ a h', createAction {} 0 (toyAction "lock_thread" "thread-1" none) toyHost
    = (.ok a, h') ∧ Scoped {} toyOps toyHost h' a.moderatorDid a.boardId := by
  obtain ⟨h', hok⟩ : ∃ h', createAction {} 0 (toyAction "lock_thread" "thread-1" none) toyHost
      = (.ok ⟨.lockThread, "thread-1", "alpha", "did:plc:alice", "spam", none⟩, h') := ⟨_, rfl⟩
  refine ⟨_, h', hok, (scoped_iff hok toyOps).2
    ⟨fun _ _ h => ?_, fun h => ?_, fun _ _ => ?_, fun h => ?_⟩⟩
  · cases h
  · cases h
  · decide +kernel
  · cases h

/-- **A moderator of one board dismisses a report on another one.** -/
theorem action_unscoped : ∃ a h', createAction {} 0 (toyAction "dismiss_report" "post-1" (some 7))
    toyHost = (.ok a, h') ∧ ¬ Scoped {} toyOps toyHost h' a.moderatorDid a.boardId := by
  refine ⟨⟨.dismissReport, "post-1", "alpha", "did:plc:alice", "spam", some 7⟩, _, rfl, fun h => ?_⟩
  obtain ⟨b, hb, hid, hmoderator⟩ := h.statuses _ List.mem_cons_self _ List.mem_cons_self rfl
    (by decide)
  rcases List.mem_cons.1 hb with rfl | hb
  · exact absurd hid (by decide)
  · obtain rfl := List.mem_singleton.1 hb
    exact absurd hmoderator (by decide)

end Moderation

end Ansible
