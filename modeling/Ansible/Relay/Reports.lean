import Ansible.Relay.Moderation

/-!
# Reports

A report is filed open.  An action of a moderator closes the report that it names, whatever its
status is, and a removal or a lock closes every open report on its target.

## Main definitions

* `Moderation.createReport` — a report of either rail, with the checks of its texts.
* `Moderation.ReportEvent`, `reportStep` — reports and actions, one after the other.
* `Moderation.passes` — the checks that an action passes before it is written.

## Main results

* `Moderation.finalStatuses_iff` — **in a run a status changes from open only exactly when the
  actions name open reports.**
-/

namespace Ansible

namespace Moderation

/-! ### Filing a report -/

inductive ReportError
  | invalidReasonCode
  | unknownTarget
  | rateLimited
  | raised
  deriving DecidableEq, Repr

/-- The attributes of a report; the reporter is verified by the rail. -/
structure ReportAttrs where
  targetKind : Json
  targetRef : Json
  boardId : Json
  reporterDid : String
  reasonCode : Json
  note : Json

/-- `ReportReason.validate`: the reason `other` needs a note. -/
def validateReason (code note : Json) : Except ReportError String :=
  match code with
  | .str code =>
    if !reasonCodes.contains code then .error .invalidReasonCode
    else if code = "other" ∧ ¬ note.str?.any (fun s => !isBlank s) then .error .invalidReasonCode
    else .ok code
  | _ => .error .invalidReasonCode

def validateTarget (kind ref : Json) : Except ReportError (String × String) :=
  match kind, ref with
  | .str kind, .str ref =>
    if ["post", "thread"].contains kind ∧ isBlank ref = false then .ok (kind, ref)
    else .error .unknownTarget
  | _, _ => .error .unknownTarget

/-- The note as the changeset casts it, a blank one being none. -/
def castNote : Json → Except ReportError (Option String)
  | .null => .ok none
  | .str s => .ok (if isBlank s then none else some s)
  | _ => .error .unknownTarget

def openReport (reporterDid kind ref : String) (r : Report) : Bool :=
  r.reporterDid == reporterDid && r.targetKind == kind && r.targetRef == ref &&
    r.status == .isOpen

/-- The row is written under the id that the sequence draws; `none` stands for a row that the
database refuses. -/
def insertReport (drawn : Option ℤ) (row : ℤ → Report) : Checked ForumHost ReportError Report :=
  fun h =>
    match drawn with
    | none => (.error .raised, h)
    | some id =>
      match h.reports.insert (row id) with
      | some reports => (.ok (row id), { h with reports })
      | none => (.error .raised, h)

def reportedBoard (C : HostConfig) (now : Time) (id : Json) :
    Checked ForumHost ReportError ForumHostBoard := fun h =>
  match ForumHost.getBoard C now id h with
  | (some board, h) => (.ok board, h)
  | (none, h) => (.error .unknownTarget, h)

/-- `limited` is the verdict of the rate limiter, which only a report that is new asks for. -/
def rateLimitedInsert (limited : Bool) (drawn : Option ℤ) (note : Json)
    (row : Option String → ℤ → Report) : Checked ForumHost ReportError Report := do
  .lift (ensure (!limited) .rateLimited)
  let note ← .lift (castNote note)
  insertReport drawn (row note)

def createReport (C : HostConfig) (now : Time) (limited : Bool) (drawn : Option ℤ)
    (attrs : ReportAttrs) : Checked ForumHost ReportError Report := do
  let reasonCode ← .lift (validateReason attrs.reasonCode attrs.note)
  let board ← reportedBoard C now attrs.boardId
  let target ← .lift (validateTarget attrs.targetKind attrs.targetRef)
  let existing ← .look fun h =>
    .ok (h.reports.find (openReport attrs.reporterDid target.1 target.2))
  match existing with
  | some report => return report
  | none =>
    rateLimitedInsert limited drawn attrs.note fun note id =>
      { id, targetKind := target.1, targetRef := target.2, boardId := board.hostedBoardId,
        reporterDid := attrs.reporterDid, reasonCode, note, status := .isOpen }

/-- The reports stay as they are, or one is added that is open. -/
def Filed (reports reports' : ReportTable) : Prop :=
  reports' = reports ∨ ∃ r, r.status = .isOpen ∧ reports.insert r = some reports'

theorem filed_rateLimitedInsert {limited : Bool} {drawn : Option ℤ} {note : Json}
    {row : Option String → ℤ → Report} (hrow : ∀ note id, (row note id).status = .isOpen)
    (h : ForumHost) : Filed h.reports (rateLimitedInsert limited drawn note row h).2.reports := by
  rw [rateLimitedInsert, Checked.bind_apply, Checked.lift_apply]
  cases ensure (!limited) ReportError.rateLimited with
  | error e => exact .inl rfl
  | ok _ =>
    dsimp only
    rw [Checked.bind_apply, Checked.lift_apply]
    cases castNote note with
    | error e => exact .inl rfl
    | ok note =>
      dsimp only
      unfold insertReport
      cases drawn with
      | none => exact .inl rfl
      | some id =>
        dsimp only
        split
        · next reports hinsert => exact .inr ⟨_, hrow note id, hinsert⟩
        · exact .inl rfl

variable (C : HostConfig) (h : ForumHost)

/-- **What a report that is filed does to the reports.** -/
theorem filed_createReport (now : Time) (limited : Bool) (drawn : Option ℤ) (attrs : ReportAttrs)
    (h : ForumHost) : Filed h.reports (createReport C now limited drawn attrs h).2.reports := by
  have hframe := (ForumHost.getBoard_frame C now attrs.boardId h).reports
  rw [createReport, Checked.bind_apply, Checked.lift_apply]
  cases validateReason attrs.reasonCode attrs.note with
  | error e => exact .inl rfl
  | ok reasonCode =>
    dsimp only
    rw [Checked.bind_apply, reportedBoard]
    generalize ForumHost.getBoard C now attrs.boardId h = found at hframe
    obtain ⟨_ | board, t⟩ := found
    · exact .inl hframe
    dsimp only at hframe ⊢
    rw [Checked.bind_apply, Checked.lift_apply]
    cases validateTarget attrs.targetKind attrs.targetRef with
    | error e => exact .inl hframe
    | ok target =>
      dsimp only
      rw [Checked.bind_apply, Checked.look_apply]
      dsimp only
      cases t.reports.find (openReport attrs.reporterDid target.1 target.2) with
      | some report => exact .inl hframe
      | none =>
        rw [← hframe]
        exact filed_rateLimitedInsert (fun _ _ => rfl) t

/-! ### Which actions are accepted -/

/-- The checks of an action: its texts, its board and moderator, its target and its report. -/
def passes (C : HostConfig) (now : Time) (attrs : ActionAttrs) (h : ForumHost) : Bool :=
  (actionOf attrs.action).any fun action =>
    (validateActionReason attrs.reasonCode).isOk &&
      (match ForumHost.getBoard C now attrs.boardId h with
      | (some board, t) => moderator C attrs.moderatorDid board t
      | (none, _) => false) &&
      (validateTargetRef attrs.targetRef).isOk &&
      match attrs.reportId with
      | none => action != .dismissReport
      | some id => h.reports.rows.any (·.id == id)

/-- **An action passes the checks and is accepted, or leaves the reports as they are.** -/
theorem createAction_cases (now : Time) (attrs : ActionAttrs) (h : ForumHost) :
    (passes C now attrs h = true ∧ ∃ a, (createAction C now attrs h).1 = .ok a ∧
      actionOf attrs.action = some a.action) ∨
    (passes C now attrs h = false ∧ (createAction C now attrs h).2.reports = h.reports) := by
  have hframe := (ForumHost.getBoard_frame C now attrs.boardId h).reports
  -- one check after the other, in the order of the source
  rw [createAction, Checked.bind_apply, Checked.lift_apply, validateActionName, passes]
  cases actionOf attrs.action with
  | none => exact .inr ⟨rfl, rfl⟩
  | some action =>
    dsimp only
    rw [Checked.bind_apply, Checked.lift_apply, Option.any_some]
    cases validateActionReason attrs.reasonCode with
    | error e => exact .inr ⟨rfl, rfl⟩
    | ok reason =>
      dsimp only
      rw [Checked.bind_apply, resolveBoard]
      generalize ForumHost.getBoard C now attrs.boardId h = found at hframe
      obtain ⟨_ | board, t⟩ := found
      · exact .inr ⟨rfl, hframe⟩
      dsimp only at hframe ⊢
      rw [Checked.bind_apply, authorizeModerator, Checked.look_apply]
      cases moderator C attrs.moderatorDid board t with
      | false => exact .inr ⟨rfl, hframe⟩
      | true =>
        rw [ensure, if_pos rfl]
        dsimp only
        rw [Checked.bind_apply, Checked.lift_apply]
        cases validateTargetRef attrs.targetRef with
        | error e => exact .inr ⟨rfl, hframe⟩
        | ok ref =>
          dsimp only
          rw [Checked.bind_apply, resolveReport, Checked.look_apply, hframe]
          cases attrs.reportId with
          | none =>
            dsimp only
            cases (action != .dismissReport) with
            | false => exact .inr ⟨rfl, hframe⟩
            | true => exact .inl ⟨rfl, _, rfl, rfl⟩
          | some id =>
            dsimp only
            cases h.reports.rows.any (·.id == id) with
            | false => exact .inr ⟨rfl, hframe⟩
            | true => exact .inl ⟨rfl, _, rfl, rfl⟩

/-! ### Statuses that change -/

/-- **A status that changes is one of an open report, or of the report that the action names.** -/
theorem transition_status (a : ModerationAction) (r : Report) :
    (transition a r).status = r.status ∨ r.status = .isOpen ∨ a.reportId = some r.id := by
  by_cases hnamed : a.reportId = some r.id
  · exact .inr (.inr hnamed)
  unfold transition
  rw [if_neg hnamed]
  dsimp only
  split
  · next hclears =>
    simp only [clears, Bool.and_eq_true, beq_iff_eq] at hclears
    exact .inr (.inl hclears.2)
  · exact .inl rfl

inductive ReportEvent
  | report (now : Time) (limited : Bool) (drawn : Option ℤ) (attrs : ReportAttrs)
  | action (now : Time) (attrs : ActionAttrs)

def reportStep (C : HostConfig) (h : ForumHost) : ReportEvent → ForumHost
  | .report now limited drawn attrs => (createReport C now limited drawn attrs h).2
  | .action now attrs => (createAction C now attrs h).2

/-- A report has the status that it had, or it was open. -/
def Moved (h h' : ForumHost) : Prop :=
  ∀ r ∈ h.reports.rows, ∃ r' ∈ h'.reports.rows, r'.id = r.id ∧
    (r'.status = r.status ∨ r.status = .isOpen)

/-- **In the run a status changes from open only**, to actioned or to dismissed, which are the other
ones: between any two states of it. -/
def FinalStatuses (C : HostConfig) (h : ForumHost) (run : List ReportEvent) : Prop :=
  ∀ pre mid post, run = pre ++ mid ++ post →
    Moved (exec (reportStep C) h pre) (exec (reportStep C) h (pre ++ mid))

/-- An action that passes the checks names a report that is open, or that has the status which the
action gives. -/
def NamesOpen (C : HostConfig) (h : ForumHost) : ReportEvent → Prop
  | .report .. => True
  | .action now attrs => passes C now attrs h = true →
      ∀ action, actionOf attrs.action = some action → ∀ r ∈ h.reports.rows,
        attrs.reportId = some r.id → r.status = .isOpen ∨ r.status = statusOf action

theorem Moved.refl : Moved h h := fun r hr => ⟨r, hr, rfl, .inl rfl⟩

theorem Moved.trans {h₁ h₂ h₃ : ForumHost} (h : Moved h₁ h₂) (h' : Moved h₂ h₃) : Moved h₁ h₃ := by
  intro r hr
  obtain ⟨r', hr', hid, hstatus⟩ := h r hr
  obtain ⟨r'', hr'', hid', hstatus'⟩ := h' r' hr'
  refine ⟨r'', hr'', hid'.trans hid, ?_⟩
  rcases hstatus with hsame | hopen
  · exact hstatus'.imp (·.trans hsame) (hsame ▸ ·)
  · exact .inr hopen

/-- One step moves the statuses as expected exactly when its action names an open report. -/
theorem moved_step_iff (e : ReportEvent) : Moved h (reportStep C h e) ↔ NamesOpen C h e := by
  cases e with
  | report now limited drawn attrs =>
    refine ⟨fun _ => trivial, fun _ r hr => ⟨r, ?_, rfl, .inl rfl⟩⟩
    rcases filed_createReport C now limited drawn attrs h with heq | ⟨x, -, hinsert⟩
    · exact (congrArg Table.rows heq).symm ▸ hr
    · exact (Table.mem_insert hinsert).2 (.inl hr)
  | action now attrs =>
    rcases createAction_cases C now attrs h with ⟨hpasses, a, hok, haction⟩ | ⟨hnot, heq⟩
    swap
    · refine ⟨fun _ hpasses => ?_, fun _ r hr => ⟨r, ?_, rfl, .inl rfl⟩⟩
      · rw [hnot] at hpasses
        cases hpasses
      · exact (congrArg Table.rows heq).symm ▸ hr
    have hacc : Accepted C now attrs h a (createAction C now attrs h).2 :=
      createAction_eq_ok (Prod.ext hok rfl)
    have hrows : (reportStep C h (.action now attrs)).reports.rows =
        h.reports.rows.map (transition a) := congrArg Table.rows hacc.reports
    constructor
    · intro hmoved _ action haction' r hr hnamed
      obtain rfl : a.action = action := Option.some.inj (haction.symm.trans haction')
      obtain ⟨r', hr', hid, hstatus⟩ := hmoved r hr
      rw [hrows] at hr'
      obtain ⟨x, hx, rfl⟩ := List.mem_map.1 hr'
      rw [transition_id] at hid
      obtain rfl := h.reports.valid.eq hx hr rfl rfl hid
      rw [transition_named (hacc.reportId.trans hnamed)] at hstatus
      exact hstatus.symm.imp id Eq.symm
    · intro hopen r hr
      refine ⟨transition a r, ?_, transition_id a r, ?_⟩
      · rw [hrows]
        exact List.mem_map_of_mem hr
      · rcases transition_status a r with hsame | hopen' | hnamed
        · exact .inl hsame
        · exact .inr hopen'
        · rw [transition_named hnamed]
          rcases hopen hpasses a.action haction r hr (hacc.reportId.symm.trans hnamed) with ho | hs
          · exact .inr ho
          · exact .inl hs.symm

theorem moved_exec {C : HostConfig} {h : ForumHost} {run : List ReportEvent}
    (halong : Along (reportStep C) (NamesOpen C) h run) : Moved h (exec (reportStep C) h run) := by
  induction run generalizing h with
  | nil => exact Moved.refl h
  | cons e run ih => exact ((moved_step_iff C h e).2 halong.1).trans (ih halong.2)

/-- **In a run a status changes from open only exactly when the actions name open reports.**  A
step moves the statuses as it should exactly when the report that its action names is open, and
moves compose along the run. -/
theorem finalStatuses_iff (C : HostConfig) (h : ForumHost) (run : List ReportEvent) :
    FinalStatuses C h run ↔ Along (reportStep C) (NamesOpen C) h run := by
  constructor
  · intro hfinal
    rw [along_iff_split]
    intro pre e post hsplit
    refine (moved_step_iff C _ e).1 ?_
    have hmoved := hfinal pre [e] post (by rw [hsplit, List.append_assoc, List.singleton_append])
    rwa [exec_append, exec_cons, exec_nil] at hmoved
  · rintro halong pre mid post rfl
    rw [exec_append]
    exact moved_exec (along_append.1 (along_append.1 halong).1).2

/-! ### A report that is dismissed and actioned -/

/-- Alice locks a thread on her board, in answer to the report that she has dismissed. -/
def toyRedecided : List ReportEvent :=
  [.action 0 (toyAction "dismiss_report" "post-1" (some 7)),
    .action 0 (toyAction "lock_thread" "thread-1" (some 7))]

/-- The report was open, is dismissed, and is actioned then. -/
theorem dismissed_report_actioned : ¬ FinalStatuses {} toyHost toyRedecided := by
  intro h
  obtain ⟨r', hr', -, hstatus⟩ := h [.action 0 (toyAction "dismiss_report" "post-1" (some 7))]
    [.action 0 (toyAction "lock_thread" "thread-1" (some 7))] [] rfl
    ⟨7, "post", "post-1", "beta", "did:plc:carol", "spam", none, .dismissed⟩
    (List.mem_singleton.2 rfl)
  obtain rfl := List.mem_singleton.1 hr'
  exact absurd hstatus (by decide)

end Moderation

end Ansible
