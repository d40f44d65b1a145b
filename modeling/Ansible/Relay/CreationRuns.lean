import Ansible.Relay.IntentPayloads

/-!
# Requests for boards side by side

A request for a board tries one slug after the other, each in a transaction of its own, and other
requests run in between: for the same slug, or with the same intent.  The intent is recorded in
the transaction that creates the board, so it stays with one board.

## Main definitions

* `CreationSystem`, `creationStep` — requests arrive, and a pending one tries its next slug.
* `CreationLaw` — what is there was there before or is from an accepted intent, and an intent
  that comes again gets the board of the first when it says the same, and else an error.

## Main results

* `creation_law_iff` — **the law holds in a state exactly when the accepted intents are plain.**
-/

namespace Ansible

namespace BoardCreation

open BoardGovernance (canonicalPayload canonicalPayload_eq)

/-! ### The system -/

inductive Answer
  | created (board : String)
  | replayed (board : String)
  | failed (e : BoardCreationError)

/-- The host with the requests: a pending one has the number of its next attempt. -/
structure CreationSystem where
  host : ForumHost
  pending : List (CreateBoardIntent × ℕ)
  answered : List (CreateBoardIntent × Answer)

/-- The requests have not begun. -/
def CreationSystem.start (h : ForumHost) : CreationSystem := ⟨h, [], []⟩

def createdBoard : CreateBoardIntent × Answer → Option (CreateBoardIntent × String)
  | (i, .created board) => some (i, board)
  | _ => none

/-- The intents that have created a board. -/
def CreationSystem.accepted (s : CreationSystem) : List (CreateBoardIntent × String) :=
  s.answered.filterMap createdBoard

inductive CreationStep
  | submit (i : CreateBoardIntent)
  /-- The pending request at `n` runs its next transaction. -/
  | attempt (n : ℕ) (now : Time) (boardId : ℕ)

/-- Whether the id of the intent is recorded. -/
def isRecorded (h : ForumHost) (i : CreateBoardIntent) : Bool :=
  (h.acceptedIntents.find? (·.intentId == i.intentId)).isSome

def finish (s : CreationSystem) (n : ℕ) (i : CreateBoardIntent) (answer : Answer) :
    CreationSystem :=
  { s with pending := s.pending.eraseIdx n, answered := s.answered ++ [(i, answer)] }

def creationStep (P : Platform) (C : HostConfig) (s : CreationSystem) :
    CreationStep → CreationSystem
  | .submit i =>
    match normalizeCreateBoardAttrs i with
    | .error e => { s with answered := s.answered ++ [(i, .failed e)] }
    | .ok () => { s with pending := s.pending ++ [(i, 1)] }
  | .attempt n now boardId =>
    match s.pending[n]? with
    | none => s
    | some (i, k) =>
      match createWithSlug P C now boardId i (String.ofList (slugCandidate (slugify i.title) k))
        s.host with
      | none =>
        if k < maxSlugAttempts then { s with pending := s.pending.set n (i, k + 1) }
        else finish s n i (.failed (.slugUnavailable (slugify i.title)))
      | some (.error e) => finish s n i (.failed e)
      | some (.ok (b, h)) =>
        finish { s with host := h } n i
          (if isRecorded s.host i then .replayed b.hostedBoardId else .created b.hostedBoardId)

/-! ### The law -/

/-- The row of an intent that has created a board. -/
def acceptedRow (P : Platform) (a : CreateBoardIntent × String) : AcceptedIntent :=
  ⟨a.1.authorDid, "create_board", "forum_host_board", a.2, a.1.intentId, payloadHash P a.1⟩

/-- What holds of the requests since the host was `h₀`. -/
structure CreationLaw (P : Platform) (h₀ : ForumHost) (s : CreationSystem) : Prop where
  /-- A request that has failed, or is pending, has left no board, -/
  boards : s.host.boards.rows.map (·.hostedBoardId) =
    h₀.boards.rows.map (·.hostedBoardId) ++ s.accepted.map Prod.snd
  /-- and no accepted intent. -/
  intents : s.host.acceptedIntents = h₀.acceptedIntents ++ s.accepted.map (acceptedRow P)
  oneBoard : ∀ a ∈ s.accepted, ∃! b, b ∈ s.host.boards.rows ∧ b.hostedBoardId = a.2
  distinctIntents : (s.accepted.map fun a => a.1.intentId).Nodup
  distinctBoards : (s.accepted.map Prod.snd).Nodup
  /-- The same content is answered with the board, from the start and at any attempt. -/
  replayed : ∀ a ∈ s.accepted, ∃ b, b.hostedBoardId = a.2 ∧
    ∀ j, j.board.Determined → SameContent j a.1 → ∀ C now boardId,
      createBoard P C now boardId j s.host = .ok (b, s.host) ∧
        ∀ slug, createWithSlug P C now boardId j slug s.host = some (.ok (b, s.host))
  /-- Another content is not. -/
  rejected : ∀ a ∈ s.accepted, ∀ j, j.board.Determined → j.intentId = a.1.intentId →
    ¬ SameContent j a.1 → ∀ C now boardId slug,
      createWithSlug P C now boardId j slug s.host = some (.error .duplicateIntent)

/-! ### One transaction -/

variable {C : HostConfig} {now : Time} {boardId : ℕ} {slug : String} {h : ForumHost}

/-- An intent that is not recorded creates a board, or changes nothing. -/
theorem createWithSlug_unrecorded {P : Platform} {i : CreateBoardIntent} {h' : ForumHost}
    {b : ForumHostBoard} (hnew : isRecorded h i = false)
    (hok : createWithSlug P C now boardId i slug h = some (.ok (b, h'))) :
    b.hostedBoardId = slug ∧ h'.boards.rows = h.boards.rows ++ [b] ∧
      h'.acceptedIntents = h.acceptedIntents ++ [acceptedRow P (i, slug)] := by
  rw [isRecorded, Option.isSome_eq_false_iff, Option.isNone_iff_eq_none] at hnew
  rw [createWithSlug, hnew] at hok
  dsimp only at hok
  split at hok
  · cases hok
  split at hok
  · cases hok
  next b' hboard =>
  split at hok
  · cases hok
  split at hok
  · cases hok
  next boards hinsert =>
  obtain ⟨rfl, rfl⟩ := Prod.mk.inj (Except.ok.inj (Option.some.inj hok))
  exact ⟨(newBoard_spec hboard).1, Table.rows_of_commit hinsert, rfl⟩

/-- An intent that is recorded is answered by its hash. -/
theorem createWithSlug_replay {P : Platform} {i : CreateBoardIntent} {accepted : AcceptedIntent}
    (hfind : h.acceptedIntents.find? (·.intentId == i.intentId) = some accepted) :
    createWithSlug P C now boardId i slug h =
      some ((resolveAcceptedIntent P i accepted h).map fun b => (b, h)) := by
  rw [createWithSlug, hfind]

theorem host_of_replay {P : Platform} {i : CreateBoardIntent} {h' : ForumHost} {b : ForumHostBoard}
    (hold : isRecorded h i = true)
    (hok : createWithSlug P C now boardId i slug h = some (.ok (b, h'))) : h' = h := by
  obtain ⟨accepted, hfind⟩ := Option.isSome_iff_exists.1 hold
  rw [createWithSlug_replay hfind] at hok
  have hres := Option.some.inj hok
  generalize resolveAcceptedIntent P i accepted h = r at hres
  cases r with
  | error e => cases hres
  | ok c => exact (Prod.mk.inj (Except.ok.inj hres)).2.symm

/-! ### The checks of a request depend on its content -/

theorem attr_eq (i : CreateBoardIntent) (key : String) (dflt : Json) :
    attr i key dflt = (given i key).getD dflt := by
  rw [attr, given, Json.fetch]
  cases i.board.get? key with
  | none => rfl
  | some v => cases v <;> rfl

theorem gateTier_sortKeys {policy : Json} (hp : policy.Determined) :
    gateTier policy.sortKeys = (gateTier policy).sortKeys := by
  rw [gateTier, gateTier, Json.fetch_sortKeys hp, Json.orElse_null_sortKeys]

theorem validMinPostTier_sortKeys (tier : Json) :
    validMinPostTier tier.sortKeys = validMinPostTier tier := by
  rw [validMinPostTier, validMinPostTier, BoardAccessPolicy.oneOf, BoardAccessPolicy.oneOf,
    Json.str?_sortKeys]

/-- The checks of the posting policy do not see the order of members. -/
theorem checks_sortKeys {policy : Json} (hp : policy.Determined) :
    validPostingPolicy policy.sortKeys = validPostingPolicy policy ∧
      externalInclusion policy.sortKeys = externalInclusion policy ∧
      gatedMinPostTier policy.sortKeys = gatedMinPostTier policy := by
  refine ⟨?_, ?_, ?_⟩
  · rw [validPostingPolicy, validPostingPolicy, gateTier_sortKeys hp, Json.isObj_sortKeys,
      Json.isNull_sortKeys, validMinPostTier_sortKeys]
  · rw [externalInclusion, externalInclusion, Json.fetch_sortKeys hp, Json.orElse_null_sortKeys,
      Json.eqv_bool_sortKeys]
  · rw [gatedMinPostTier, gatedMinPostTier, gateTier_sortKeys hp, validMinPostTier_sortKeys,
      Json.eqv_str_sortKeys]

theorem attr_determined {i : CreateBoardIntent} (hi : i.board.Determined) (key : String) :
    (attr i key .null).Determined := by
  rw [attr_eq]
  cases hkey : given i key with
  | none => trivial
  | some v => exact given_determined hi hkey

theorem SameContent.normalizeCreateBoardAttrs_eq {i j : CreateBoardIntent} (h : SameContent i j)
    (hi : i.board.Determined) (hj : j.board.Determined) :
    normalizeCreateBoardAttrs i = normalizeCreateBoardAttrs j := by
  obtain ⟨hid, hauthor, htitle, hmembers⟩ := h.spec hi
  have hpolicy : (attr i "posting_policy" .null).sortKeys =
      (attr j "posting_policy" .null).sortKeys := by
    have hmember := hmembers "posting_policy" (by decide)
    rw [attr_eq, attr_eq]
    cases hi : given i "posting_policy" <;> cases hj : given j "posting_policy" <;>
      simp_all
  obtain ⟨hvalid, hexternal, hgated⟩ := checks_sortKeys (attr_determined hi "posting_policy")
  obtain ⟨hvalid', hexternal', hgated'⟩ := checks_sortKeys (attr_determined hj "posting_policy")
  rw [hpolicy] at hvalid hexternal hgated
  rw [normalizeCreateBoardAttrs, normalizeCreateBoardAttrs, hid, hauthor, htitle, ← hvalid, hvalid',
    ← hexternal, hexternal', ← hgated, hgated']

/-! ### The accepted intents of a run -/

/-- What every step keeps, where the submitted intents satisfy `Q`. -/
structure Tracked (P : Platform) (Q : CreateBoardIntent → Prop) (h₀ : ForumHost)
    (s : CreationSystem) : Prop where
  boards : s.host.boards.rows.map (·.hostedBoardId) =
    h₀.boards.rows.map (·.hostedBoardId) ++ s.accepted.map Prod.snd
  intents : s.host.acceptedIntents = h₀.acceptedIntents ++ s.accepted.map (acceptedRow P)
  /-- An id is recorded once. -/
  fresh : ∀ a ∈ s.accepted, ∀ r ∈ h₀.acceptedIntents, r.intentId ≠ a.1.intentId
  distinct : (s.accepted.map fun a => a.1.intentId).Nodup
  checked : ∀ a ∈ s.accepted, Q a.1 ∧ normalizeCreateBoardAttrs a.1 = .ok ()
  pending : ∀ r ∈ s.pending, Q r.1 ∧ normalizeCreateBoardAttrs r.1 = .ok ()

theorem accepted_finish {s : CreationSystem} {n : ℕ} {i : CreateBoardIntent} {answer : Answer}
    (h : createdBoard (i, answer) = none) : (finish s n i answer).accepted = s.accepted := by
  rw [CreationSystem.accepted, finish, List.filterMap_append, List.filterMap_cons, h]
  exact List.append_nil _

theorem accepted_finish_created (s : CreationSystem) (n : ℕ) (i : CreateBoardIntent)
    (board : String) : (finish s n i (.created board)).accepted = s.accepted ++ [(i, board)] := by
  rw [CreationSystem.accepted, finish, List.filterMap_append]
  rfl

section Step

variable {P : Platform} {Q : CreateBoardIntent → Prop} {h₀ : ForumHost} {s : CreationSystem}
  {n : ℕ} {i : CreateBoardIntent}

theorem Tracked.start (P : Platform) (Q : CreateBoardIntent → Prop) (h₀ : ForumHost) :
    Tracked P Q h₀ (.start h₀) where
  boards := (List.append_nil _).symm
  intents := (List.append_nil _).symm
  fresh := by simp [CreationSystem.start, CreationSystem.accepted]
  distinct := List.nodup_nil
  checked := by simp [CreationSystem.start, CreationSystem.accepted]
  pending := by simp [CreationSystem.start]

theorem Tracked.answer (hs : Tracked P Q h₀ s) {answer : Answer}
    (h : createdBoard (i, answer) = none) : Tracked P Q h₀ (finish s n i answer) := by
  have haccepted : (finish s n i answer).accepted = s.accepted := accepted_finish h
  exact
    { boards := haccepted ▸ hs.boards
      intents := haccepted ▸ hs.intents
      fresh := haccepted ▸ hs.fresh
      distinct := haccepted ▸ hs.distinct
      checked := haccepted ▸ hs.checked
      pending := fun r hr => hs.pending r (List.mem_of_mem_eraseIdx hr) }

/-- A recorded intent is that of an accepted one, or was recorded before. -/
theorem Tracked.unrecorded (hs : Tracked P Q h₀ s) (hnew : isRecorded s.host i = false) :
    (∀ r ∈ h₀.acceptedIntents, r.intentId ≠ i.intentId) ∧
      ∀ a ∈ s.accepted, a.1.intentId ≠ i.intentId := by
  rw [isRecorded, Option.isSome_eq_false_iff, Option.isNone_iff_eq_none,
    List.find?_eq_none, hs.intents] at hnew
  refine ⟨fun r hr => ?_, fun a ha => ?_⟩
  · simpa using hnew r (List.mem_append_left _ hr)
  · have hne := hnew (acceptedRow P a) (List.mem_append_right _ (List.mem_map_of_mem ha))
    rwa [beq_iff_eq] at hne

variable {C : HostConfig} {a : CreateBoardIntent × String}

/-- A transaction that creates a board records its intent. -/
theorem Tracked.created (hs : Tracked P Q h₀ s) (hi : Q i)
    (hok : normalizeCreateBoardAttrs i = .ok ()) {b : ForumHostBoard}
    (hnew : isRecorded s.host i = false)
    (hcreate : createWithSlug P C now boardId i slug s.host = some (.ok (b, h))) :
    Tracked P Q h₀ (finish { s with host := h } n i (.created b.hostedBoardId)) := by
  obtain ⟨hslug, hboards, hintents⟩ := createWithSlug_unrecorded hnew hcreate
  obtain ⟨hbefore, hsince⟩ := hs.unrecorded hnew
  have haccepted : (finish { s with host := h } n i
      (.created b.hostedBoardId)).accepted = s.accepted ++ [(i, b.hostedBoardId)] :=
    accepted_finish_created _ n i _
  refine ⟨?_, ?_, ?_, ?_, ?_, fun r hr => hs.pending r (List.mem_of_mem_eraseIdx hr)⟩
  · rw [haccepted, List.map_append, ← List.append_assoc, ← hs.boards]
    exact (congrArg (List.map _) hboards).trans List.map_append
  · rw [haccepted, List.map_append, ← List.append_assoc, ← hs.intents, hslug]
    exact hintents
  · rw [haccepted]
    intro a ha
    rcases List.mem_append.1 ha with ha | ha
    · exact hs.fresh a ha
    · rw [List.mem_singleton.1 ha]
      exact hbefore
  · rw [haccepted, List.map_append, List.nodup_append]
    refine ⟨hs.distinct, List.nodup_singleton _, fun x hx y hy => ?_⟩
    obtain ⟨a, ha, rfl⟩ := List.mem_map.1 hx
    rw [List.mem_singleton.1 hy]
    exact hsince a ha
  · rw [haccepted]
    intro a ha
    rcases List.mem_append.1 ha with ha | ha
    · exact hs.checked a ha
    · rw [List.mem_singleton.1 ha]
      exact ⟨hi, hok⟩

theorem Tracked.step (hs : Tracked P Q h₀ s) (a : CreationStep) (ha : ∀ i, a = .submit i → Q i) :
    Tracked P Q h₀ (creationStep P C s a) := by
  cases a with
  | submit i =>
    rw [creationStep]
    cases hok : normalizeCreateBoardAttrs i with
    | error e =>
      have haccepted : ({ s with answered := s.answered ++ [(i, .failed e)] } :
          CreationSystem).accepted = s.accepted := by
        rw [CreationSystem.accepted, List.filterMap_append]
        exact List.append_nil _
      exact ⟨haccepted ▸ hs.boards, haccepted ▸ hs.intents, haccepted ▸ hs.fresh,
        haccepted ▸ hs.distinct, haccepted ▸ hs.checked, hs.pending⟩
    | ok u =>
      refine ⟨hs.boards, hs.intents, hs.fresh, hs.distinct, hs.checked, fun r hr => ?_⟩
      rcases List.mem_append.1 hr with hr | hr
      · exact hs.pending r hr
      · rw [List.mem_singleton.1 hr]
        exact ⟨ha i rfl, hok⟩
  | attempt n now boardId =>
    rw [creationStep]
    cases hget : s.pending[n]? with
    | none => exact hs
    | some r =>
      obtain ⟨i, k⟩ := r
      obtain ⟨hi, hok⟩ := hs.pending _ (List.mem_of_getElem? hget)
      dsimp only
      cases hresult : createWithSlug P C now boardId i
          (String.ofList (slugCandidate (slugify i.title) k)) s.host with
      | none =>
        dsimp only
        split
        · refine ⟨hs.boards, hs.intents, hs.fresh, hs.distinct, hs.checked, fun r hr => ?_⟩
          rcases List.mem_or_eq_of_mem_set hr with hr | rfl
          · exact hs.pending r hr
          · exact ⟨hi, hok⟩
        · exact hs.answer rfl
      | some result =>
        cases result with
        | error e => exact hs.answer rfl
        | ok created =>
          obtain ⟨b, h⟩ := created
          dsimp only
          cases hnew : isRecorded s.host i with
          | false => exact hs.created hi hok hnew hresult
          | true =>
            -- a replay answers with what is stored
            have hhost := host_of_replay hnew hresult
            rw [hhost]
            exact hs.answer rfl

theorem Tracked.run {steps : List CreationStep} (hsteps : ∀ i, .submit i ∈ steps → Q i) :
    Tracked P Q h₀ (exec (creationStep P C) (.start h₀) steps) := by
  have halong : Along (creationStep P C) (fun _ a => ∀ i, a = .submit i → Q i) (.start h₀)
      steps := by
    refine along_iff_split.2 fun bs a cs hsplit i ha => hsteps i ?_
    rw [hsplit, ha]
    exact List.mem_append_right _ List.mem_cons_self
  exact halong.invariant (fun _ a hs ha => hs.step a ha) (.start P Q h₀)

/-! ### The law of a tracked state -/

theorem Tracked.find (hs : Tracked P Q h₀ s) (ha : a ∈ s.accepted) :
    s.host.acceptedIntents.find? (·.intentId == a.1.intentId) = some (acceptedRow P a) := by
  have hbefore : h₀.acceptedIntents.find? (·.intentId == a.1.intentId) = none := by
    rw [List.find?_eq_none]
    intro r hr
    rw [beq_iff_eq]
    exact hs.fresh a ha r hr
  rw [hs.intents, List.find?_append, hbefore, Option.none_or, List.find?_map]
  cases hfind : s.accepted.find? ((·.intentId == a.1.intentId) ∘ acceptedRow P) with
  | none =>
    rw [List.find?_eq_none] at hfind
    exact absurd (beq_self_eq_true _) (hfind a ha)
  | some c =>
    have hkey := List.find?_some hfind
    have hid : c.1.intentId = a.1.intentId := beq_iff_eq.1 hkey
    rw [List.inj_on_of_nodup_map hs.distinct (List.mem_of_find?_eq_some hfind) ha hid]
    rfl

theorem Tracked.board (hs : Tracked P Q h₀ s) (ha : a ∈ s.accepted) :
    ∃ b, s.host.boards.get a.2 = some b := by
  have hmem : a.2 ∈ s.host.boards.rows.map (·.hostedBoardId) := by
    rw [hs.boards]
    exact List.mem_append_right _ (List.mem_map_of_mem ha)
  obtain ⟨b, hb, hid⟩ := List.mem_map.1 hmem
  exact ⟨b, BoardTable.get_eq_some.2 ⟨hb, hid⟩⟩

theorem Tracked.oneBoard (hs : Tracked P Q h₀ s) (ha : a ∈ s.accepted) :
    ∃! b, b ∈ s.host.boards.rows ∧ b.hostedBoardId = a.2 := by
  obtain ⟨b, hb⟩ := hs.board ha
  refine ⟨b, BoardTable.get_eq_some.1 hb, fun c hc => ?_⟩
  have hget := (BoardTable.get_eq_some.2 hc).symm.trans hb
  exact Option.some.inj hget

theorem Tracked.distinctBoards (hs : Tracked P Q h₀ s) : (s.accepted.map Prod.snd).Nodup := by
  have hkeys := s.host.boards.valid.hosted_board_id
  rw [UniqueOn, List.filter_true, hs.boards] at hkeys
  exact (List.nodup_append.1 hkeys).2.1

/-- The answer to an intent whose id is that of an accepted one. -/
theorem Tracked.createWithSlug_eq (hs : Tracked P Q h₀ s) (ha : a ∈ s.accepted) {b : ForumHostBoard}
    (hb : s.host.boards.get a.2 = some b) {j : CreateBoardIntent} (hid : j.intentId = a.1.intentId)
    (C : HostConfig) (now : Time) (boardId : ℕ) (slug : String) :
    createWithSlug P C now boardId j slug s.host =
      some (if payloadHash P a.1 = payloadHash P j then .ok (b, s.host)
        else .error .duplicateIntent) := by
  have hfind := hs.find ha
  rw [← hid] at hfind
  rw [createWithSlug_replay hfind, resolveAcceptedIntent, acceptedRow]
  dsimp only
  rw [hb]
  split <;> rfl

/-- A content that was accepted is answered with its board. -/
theorem Tracked.replayed (hs : Tracked P (·.board.Determined) h₀ s) (ha : a ∈ s.accepted) :
    ∃ b, b.hostedBoardId = a.2 ∧
      ∀ j, j.board.Determined → SameContent j a.1 → ∀ C now boardId,
        createBoard P C now boardId j s.host = .ok (b, s.host) ∧
          ∀ slug, createWithSlug P C now boardId j slug s.host = some (.ok (b, s.host)) := by
  obtain ⟨b, hb⟩ := hs.board ha
  refine ⟨b, (BoardTable.get_eq_some.1 hb).2, fun j hj hsame C now boardId => ?_⟩
  have hattempt : ∀ slug, createWithSlug P C now boardId j slug s.host =
      some (.ok (b, s.host)) := by
    intro slug
    rw [hs.createWithSlug_eq ha hb (hsame.spec hj).1, if_pos (hsame.payloadHash_eq hj P).symm]
  refine ⟨?_, hattempt⟩
  obtain ⟨hdet, hok⟩ := hs.checked a ha
  rw [createBoard, hsame.normalizeCreateBoardAttrs_eq hj hdet, hok]
  change createFrom P C now boardId j s.host 1 maxSlugAttempts = _
  rw [maxSlugAttempts, createFrom, hattempt]

/-- Another content under the id of a plain one is refused. -/
theorem Tracked.rejected (hs : Tracked P (·.board.Determined) h₀ s) (ha : a ∈ s.accepted)
    (hsha : P.Collisionless (canonicalPayload (intentPayload a.1)).encode.utf8)
    (hplain : PlainContent a.1) {j : CreateBoardIntent} (hj : j.board.Determined)
    (hid : j.intentId = a.1.intentId) (hne : ¬ SameContent j a.1) (C : HostConfig) (now : Time)
    (boardId : ℕ) (slug : String) :
    createWithSlug P C now boardId j slug s.host = some (.error .duplicateIntent) := by
  obtain ⟨b, hb⟩ := hs.board ha
  rw [hs.createWithSlug_eq ha hb hid, if_neg]
  intro hhash
  exact hne (hashExact_of_plain (hs.checked a ha).1 hsha hplain j hj hhash.symm)

theorem Tracked.plain (hs : Tracked P (·.board.Determined) h₀ s) (hlaw : CreationLaw P h₀ s)
    (ha : a ∈ s.accepted) : PlainContent a.1 := by
  obtain ⟨b, hb⟩ := hs.board ha
  intro key hkey v hv
  by_contra hplain
  obtain ⟨w, hw, hhash, hne⟩ := exists_other_of_not_plain (P := P) (hs.checked a ha).1 hkey hv
    hplain
  have hanswer := hlaw.rejected a ha _ hw rfl hne {} 0 0 ""
  have hid : (withMember a.1 key w).intentId = a.1.intentId := rfl
  rw [hs.createWithSlug_eq ha hb hid, if_pos hhash.symm] at hanswer
  cases hanswer

end Step

/-- **In whatever order requests for boards run, each accepted intent has one board of its own,
a request with its content gets that board, one with another content is refused, and one that
fails leaves nothing behind: exactly when the accepted contents are plain.** -/
theorem creation_law_iff {P : Platform} {C : HostConfig} {h₀ : ForumHost}
    {steps : List CreationStep} (hsteps : ∀ i, .submit i ∈ steps → i.board.Determined)
    (hsha : ∀ a ∈ (exec (creationStep P C) (.start h₀) steps).accepted,
      P.Collisionless (canonicalPayload (intentPayload a.1)).encode.utf8) :
    CreationLaw P h₀ (exec (creationStep P C) (.start h₀) steps) ↔
      ∀ a ∈ (exec (creationStep P C) (.start h₀) steps).accepted, PlainContent a.1 := by
  have hs : Tracked P (·.board.Determined) h₀ (exec (creationStep P C) (.start h₀) steps) :=
    .run hsteps
  refine ⟨fun hlaw a ha => hs.plain hlaw ha, fun hplain => ?_⟩
  exact
    { boards := hs.boards
      intents := hs.intents
      oneBoard := fun a ha => hs.oneBoard ha
      distinctIntents := hs.distinct
      distinctBoards := hs.distinctBoards
      replayed := fun a ha => hs.replayed ha
      rejected := fun a ha j hj hid hne C now boardId slug =>
        hs.rejected ha (hsha a ha) (hplain a ha) hj hid hne C now boardId slug }

/-! ### Alice's boards -/

/-- Alice asks for the board twice at the same time. -/
def toyTwice : List CreationStep :=
  [.submit toyDescribed, .submit toyDescribed, .attempt 0 0 1, .attempt 0 0 2]

theorem creation_law_toy :
    let P := Platform.marking (canonicalPayload (intentPayload toyDescribed)).encode.utf8
    CreationLaw P .empty (exec (creationStep P {}) (.start .empty) toyTwice) ∧
      (exec (creationStep P {}) (.start .empty) toyTwice).accepted.length = 1 := by
  intro P
  have hsubmit : ∀ i, .submit i ∈ toyTwice → i = toyDescribed := by
    simp [toyTwice]
  have hs : Tracked P (· = toyDescribed) .empty (exec (creationStep P {}) (.start .empty)
      toyTwice) := .run hsubmit
  refine ⟨(creation_law_iff ?_ ?_).2 ?_, by decide +kernel⟩
  · intro i hi
    rw [hsubmit i hi]
    exact toyDescribed_determined
  · intro a ha
    rw [(hs.checked a ha).1]
    exact Platform.collisionless_marking _
  · intro a ha
    rw [(hs.checked a ha).1]
    exact plainContent_toyDescribed

/-- The board that an answer without a new one gives. -/
def replayedBoard : Answer → Option String
  | .replayed board => some board
  | _ => none

def toyPermitted : List CreationStep := [.submit toyPermissions, .attempt 0 0 1]

/-- The permissions come again as a list of pairs, which is another content, and are answered with
the board of the first request. -/
theorem pairs_not_rejected :
    ¬ CreationLaw .toy .empty (exec (creationStep .toy {}) (.start .empty) toyPermitted) ∧
      (exec (creationStep .toy {}) (.start .empty)
        (toyPermitted ++ [.submit toyPairs, .attempt 0 1 2])).answered.map
          (fun a => replayedBoard a.2) = [none, some "t"] := by
  refine ⟨fun hlaw => ?_, by decide +kernel⟩
  have hs : Tracked .toy (· = toyPermissions) .empty (exec (creationStep .toy {}) (.start .empty)
      toyPermitted) := .run (by simp [toyPermitted])
  have hlength : (exec (creationStep .toy {}) (.start .empty)
      toyPermitted).accepted.length = 1 := by
    decide +kernel
  generalize exec (creationStep .toy {}) (.start .empty) toyPermitted = s at hlaw hs hlength
  obtain ⟨a, ha⟩ := List.length_eq_one_iff.1 hlength
  have hmem : a ∈ s.accepted := ha ▸ List.mem_singleton_self a
  have htoy : a.1 = toyPermissions := (hs.checked a hmem).1
  obtain ⟨b, hb⟩ := hs.board hmem
  have hanswer := hlaw.rejected a hmem toyPairs toyPairs_determined (by rw [htoy]; rfl)
    (by rw [htoy]; exact not_sameContent_toyPairs) {} 1 2 "t"
  rw [hs.createWithSlug_eq hmem hb (by rw [htoy]; rfl), htoy, payloadHash_toyPairs, if_pos rfl]
    at hanswer
  cases hanswer

end BoardCreation

end Ansible
