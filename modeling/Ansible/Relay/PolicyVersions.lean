import Ansible.Relay.BoardCreation
import Ansible.Relay.PolicyApprovals

/-!
# Versions of the policy of a board

A change of a policy is recorded as the next version, and applied when it has become effective.
Applying it is a transaction of its own, which follows a look at the board and one at its
versions.

## Main definitions

* `PolicySystem`, `PolicyStep` — the host with the activations under way.
* `PolicyLaw` — the versions of each board are in order, and what loosens is delayed.

## Main results

* `policy_versions_law` — **in every run of careful steps the versions are in order, none
  decreases, and what loosens is delayed.**
-/

namespace Ansible

open ForumHost BoardGovernance

/-! ### What loosens a policy -/

namespace BoardAccessPolicy

/-- A credential of a visitor. -/
structure Credential where
  credentialType : String
  configuration : Option String
  issuer : String
  claim : String → Option Json
  statusAge : ℤ

structure Visitor where
  meetsPostingPolicy : Bool
  moderator : Bool
  credentials : List Credential

/-- The credential is one that the rule asks for. -/
structure Credential.Meets (c : Credential) (rule : Json) : Prop where
  credentialType : rule.fetch "credential_type" = .str c.credentialType
  configuration : rule.fetch "credential_configuration_id" = .null ∨
    ∃ id, rule.fetch "credential_configuration_id" = .str id ∧ c.configuration = some id
  issuer : ∃ issuers, rule.fetch "trusted_issuers" = .arr issuers ∧ .str c.issuer ∈ issuers
  claims : ∃ claims, rule.fetch "claims" = .arr claims ∧ ∀ claim ∈ claims, ∃ path value,
    claim.fetch "path" = .str path ∧ c.claim path = some value ∧
      value.eqv (claim.fetch "value") = true
  status : ∃ age, (rule.fetch "status").fetch "max_age_seconds" = .int age ∧ c.statusAge ≤ age

/-- The visitor meets what the policy requires for an action. -/
def Visitor.Admitted (v : Visitor) (policy : Json) (action : Action) : Prop :=
  match actionRequirement policy action with
  | .str "public" => True
  | .str "posting_policy" => v.meetsPostingPolicy = true
  | .str "board_moderator" => v.moderator = true
  | .str name => ∃ c ∈ v.credentials, c.Meets ((policy.fetch "requirements").fetch name)
  | _ => False

/-- How many can read the content. -/
def openness : Visibility → ℕ
  | .isPublic => 2
  | .hostVisible => 1
  | .endToEndEncrypted => 0

end BoardAccessPolicy

open BoardAccessPolicy (Visitor Action openness)

/-- The change makes the content visible to more, or admits someone to an action whom the policy
of the board does not admit. -/
def Loosens (b : ForumHostBoard) (r : PolicyRequest) : Prop :=
  openness b.contentVisibility < openness r.contentVisibility ∨
    ∃ (action : Action) (v : Visitor),
      v.Admitted r.accessPolicy action ∧ ¬ v.Admitted b.accessPolicy action

/-- How long what loosens a policy has to wait. -/
def sensitiveDelay : Time := seconds 86400

/-! ### Activations -/

/-- A version found due for a board that was read, and yet to be applied. -/
structure Activation where
  board : ForumHostBoard
  version : BoardPolicyVersion
  now : Time

/-- The columns in which the policy differs from the board that was read are written. -/
def writeChanges (read : ForumHostBoard) (access : Json) (visibility : Visibility)
    (federation : Json) : BoardUpdate where
  apply b :=
    let state := if visibility = .endToEndEncrypted then EncryptionState.rotationRequired
      else .disabled
    { b with
      accessPolicy := if access.eqv read.accessPolicy then b.accessPolicy else access
      contentVisibility :=
        if visibility = read.contentVisibility then b.contentVisibility else visibility
      federationPolicy :=
        if federation.eqv read.federationPolicy then b.federationPolicy else federation
      accessPolicyVersion := read.accessPolicyVersion + 1
      encryptionState := if state = read.encryptionState then b.encryptionState else state }
  hostedBoardId_eq _ := rfl
  boardId_eq _ := rfl

/-- A version of the board before `version` is superseded. -/
def superseded (now : Time) (id : String) (version : ℤ) (v : BoardPolicyVersion) :
    BoardPolicyVersion :=
  if v.hostedBoardId = id ∧ v.version < version ∧ v.supersededAt = none then
    { v with supersededAt := some now } else v

def supersede (now : Time) (id : String) (version : ℤ) (versions : List BoardPolicyVersion) :
    List BoardPolicyVersion := versions.map (superseded now id version)

/-- `activate_policy_version`, with the board as it was read. -/
def applyVersion (C : HostConfig) (a : Activation) (h : ForumHost) : ForumHost :=
  match policyChanges a.version.canonicalPolicy with
  | none => h
  | some (access, visibility, federation) =>
    if policyAdmissible C a.board access visibility federation then
      { h with
        boards := h.boards.modify a.board.hostedBoardId
          (writeChanges a.board access visibility federation)
        policyVersions := supersede a.now a.board.hostedBoardId a.version.version
          h.policyVersions }
    else h

/-! ### The system -/

/-- A change that was recorded, with the board as it was. -/
structure Proposal where
  board : ForumHostBoard
  request : PolicyRequest
  now : Time

/-- A version of the policy of a board came into effect. -/
structure Effect where
  boardId : String
  version : ℤ
  time : Time
  deriving DecidableEq

/-- The host, the boards and due versions that requests have read, and what has happened. -/
structure PolicySystem where
  deployment : Deployment
  reads : List ForumHostBoard
  due : List Activation
  proposals : List Proposal
  effects : List Effect

namespace PolicySystem

def empty : PolicySystem := ⟨Deployment.empty, [], [], [], []⟩

abbrev host (s : PolicySystem) : ForumHost := s.deployment.host

end PolicySystem

inductive PolicyStep
  /-- Anything that happens to identities. -/
  | relay (relay : Relay)
  | create (now : Time) (boardId : ℕ) (i : CreateBoardIntent)
  | propose (now : Time) (i : PolicyIntent)
  /-- A request reads a board. -/
  | read (id : String)
  /-- The request looks for a version that is due. -/
  | due (n : ℕ) (now : Time)
  /-- The version that was found is applied. -/
  | apply (n : ℕ)

/-- The boards whose version is new. -/
def newEffects (now : Time) (h h' : ForumHost) : List Effect :=
  h'.boards.rows.filterMap fun b =>
    if (h.boards.get b.hostedBoardId).map (·.accessPolicyVersion) = some b.accessPolicyVersion
    then none else some ⟨b.hostedBoardId, b.accessPolicyVersion, now⟩

/-- The change that a proposal has recorded. -/
def newProposals (C : HostConfig) (now : Time) (i : PolicyIntent) (h h' : ForumHost) :
    List Proposal :=
  match normalizeBoardPolicyAttrs C i with
  | .ok r =>
    match h.boards.get r.boardId with
    | some b => if h'.policyVersions.length = h.policyVersions.length then [] else [⟨b, r, now⟩]
    | none => []
  | .error _ => []

namespace PolicySystem

def moved (now : Time) (d : Deployment) (s : PolicySystem) : PolicySystem :=
  { s with deployment := d, effects := s.effects ++ newEffects now s.host d.host }

end PolicySystem

def policyStep (P : Platform) (C : HostConfig) (s : PolicySystem) : PolicyStep → PolicySystem
  | .relay relay => { s with deployment := { s.deployment with relay } }
  | .create now boardId i =>
    match BoardCreation.createBoard P C now boardId i s.host with
    | .ok (_, host) => s.moved now { s.deployment with host }
    | .error _ => s
  | .propose now i =>
    let d := (updateBoardPolicy P C now i s.deployment).2
    { s.moved now d with proposals := s.proposals ++ newProposals C now i s.host d.host }
  | .read id =>
    match namedBoard id s.host with
    | some b => { s with reads := s.reads ++ [b] }
    | none => s
  | .due n now =>
    match s.reads[n]? with
    | some b =>
      match dueVersion now b s.host with
      | some v => { s with due := s.due ++ [⟨b, v, now⟩] }
      | none => s
    | none => s
  | .apply n =>
    match s.due[n]? with
    | some a => s.moved a.now { s.deployment with host := applyVersion C a s.host }
    | none => s

/-- An activation finds the board at the version at which it was read, and a change that loosens
the policy is one that the code delays or that takes effect after the delay. -/
def Careful (C : HostConfig) (s : PolicySystem) : PolicyStep → Prop
  | .propose now i => ∀ r b, normalizeBoardPolicyAttrs C i = .ok r →
      s.host.boards.get r.boardId = some b → Loosens b r →
        sensitivePolicyChange b r = true ∨ now + sensitiveDelay ≤ r.effectiveAt
  | .apply n => ∀ a, s.due[n]? = some a → ∀ b,
      s.host.boards.get a.board.hostedBoardId = some b →
        b.accessPolicyVersion = a.board.accessPolicyVersion
  | _ => True

/-! ### The law -/

/-- The versions of a board, in the order in which they were recorded. -/
def versionsOf (h : ForumHost) (id : String) : List BoardPolicyVersion :=
  h.policyVersions.filter (·.hostedBoardId = id)

/-- The numbers from one to `n`. -/
def upTo (n : ℕ) : List ℤ := (List.range n).map fun k : ℕ => (k : ℤ) + 1

theorem mem_upTo {n : ℕ} {k : ℤ} : k ∈ upTo n ↔ 1 ≤ k ∧ k ≤ n := by
  rw [upTo, List.mem_map]
  constructor
  · rintro ⟨m, hm, rfl⟩
    have hlt := List.mem_range.1 hm
    omega
  · rintro ⟨hpos, hle⟩
    exact ⟨(k - 1).toNat, List.mem_range.2 (by omega), by omega⟩

theorem nodup_upTo (n : ℕ) : (upTo n).Nodup :=
  List.nodup_range.map fun k k' heq => by
    have hint : (k : ℤ) + 1 = k' + 1 := heq
    omega

theorem upTo_succ (n : ℕ) : upTo (n + 1) = upTo n ++ [(n : ℤ) + 1] := by
  rw [upTo, List.range_succ, List.map_append, List.map_singleton, ← upTo]

def pending (b : ForumHostBoard) (v : BoardPolicyVersion) : Bool :=
  decide (b.accessPolicyVersion < v.version) && v.supersededAt.isNone

/-- The value of a column is that of a document. -/
def Holds (column value : Json) : Prop := column = value ∨ value.eqv column = true

/-- The policy of the board is the one of a version. -/
def Agrees (b : ForumHostBoard) (policy : Json) : Prop :=
  ∃ access visibility federation, policyChanges policy = some (access, visibility, federation) ∧
    Holds b.accessPolicy access ∧ b.contentVisibility = visibility ∧
      Holds b.federationPolicy federation

/-- What holds of the versions of every board. -/
structure PolicyLaw (s : PolicySystem) : Prop where
  gapless : ∀ b ∈ s.host.boards.rows, ∃ n : ℕ,
    (versionsOf s.host b.hostedBoardId).map (·.version) = upTo n
  onePending : ∀ b ∈ s.host.boards.rows,
    ((versionsOf s.host b.hostedBoardId).filter (pending b)).length ≤ 1
  named : ∀ b ∈ s.host.boards.rows, ∃ v ∈ versionsOf s.host b.hostedBoardId,
    v.version = b.accessPolicyVersion ∧ Agrees b v.canonicalPolicy ∧
      ∃ e ∈ s.effects, e.boardId = b.hostedBoardId ∧ e.version = b.accessPolicyVersion
  delayed : ∀ p ∈ s.proposals, Loosens p.board p.request → ∀ e ∈ s.effects,
    e.boardId = p.board.hostedBoardId → e.version = p.board.accessPolicyVersion + 1 →
      p.now + sensitiveDelay ≤ e.time

/-! ### What the writes preserve -/

/-- What is known of a version for ever. -/
def BoardPolicyVersion.core (v : BoardPolicyVersion) : String × ℤ × Json × Time :=
  (v.hostedBoardId, v.version, v.canonicalPolicy, v.effectiveAt)

/-- The versions of a board are those up to its own, and at most one more. -/
structure BoardSound (versions : List BoardPolicyVersion) (b : ForumHostBoard) : Prop where
  numbers : ∃ n : ℕ, versions.map (·.version) = upTo n ∧
    (b.accessPolicyVersion = n ∨ b.accessPolicyVersion + 1 = n)
  superseded : ∀ v ∈ versions, v.supersededAt = none ↔ b.accessPolicyVersion ≤ v.version
  current : ∃ v ∈ versions, v.version = b.accessPolicyVersion ∧ Agrees b v.canonicalPolicy

structure HostSound (h : ForumHost) : Prop where
  boards : ∀ b ∈ h.boards.rows, BoardSound (versionsOf h b.hostedBoardId) b
  foreign : ∀ v ∈ h.policyVersions, ∃ b ∈ h.boards.rows, b.hostedBoardId = v.hostedBoardId

/-- The one is the other at an earlier time. -/
structure PastOf (b b' : ForumHostBoard) : Prop where
  hostedBoardId : b'.hostedBoardId = b.hostedBoardId
  le : b.accessPolicyVersion ≤ b'.accessPolicyVersion
  same : b.accessPolicyVersion = b'.accessPolicyVersion → b'.accessPolicy = b.accessPolicy ∧
    b'.contentVisibility = b.contentVisibility ∧ b'.federationPolicy = b.federationPolicy

theorem PastOf.refl (b : ForumHostBoard) : PastOf b b := ⟨rfl, le_rfl, fun _ => ⟨rfl, rfl, rfl⟩⟩

variable {b : ForumHostBoard} {h h' : ForumHost} {v : BoardPolicyVersion}
  {versions : List BoardPolicyVersion} {P : Platform} {r : PolicyRequest} {C : HostConfig}
  {i : PolicyIntent} {s : PolicySystem}

theorem PastOf.trans {b' b'' : ForumHostBoard} (h : PastOf b b') (h' : PastOf b' b'') :
    PastOf b b'' := by
  refine ⟨h'.hostedBoardId.trans h.hostedBoardId, h.le.trans h'.le, fun heq => ?_⟩
  have heq' : b'.accessPolicyVersion = b''.accessPolicyVersion :=
    le_antisymm h'.le (heq ▸ h.le)
  obtain ⟨haccess, hvisibility, hfederation⟩ := h.same (heq.trans heq'.symm)
  obtain ⟨haccess', hvisibility', hfederation'⟩ := h'.same heq'
  exact ⟨haccess'.trans haccess, hvisibility'.trans hvisibility, hfederation'.trans hfederation⟩

/-- The one host is the other at a later time. -/
structure Later (h h' : ForumHost) : Prop where
  boards : ∀ b ∈ h.boards.rows, ∃ b' ∈ h'.boards.rows, PastOf b b'
  versions : ∀ v ∈ h.policyVersions, ∃ v' ∈ h'.policyVersions, v'.core = v.core

theorem Later.refl (h : ForumHost) : Later h h :=
  ⟨fun b hb => ⟨b, hb, .refl b⟩, fun v hv => ⟨v, hv, rfl⟩⟩

theorem Later.trans {h₁ h₂ h₃ : ForumHost} (h : Later h₁ h₂) (h' : Later h₂ h₃) :
    Later h₁ h₃ := by
  constructor
  · intro b hb
    obtain ⟨b', hb', hpast⟩ := h.boards b hb
    obtain ⟨b'', hb'', hpast'⟩ := h'.boards b' hb'
    exact ⟨b'', hb'', hpast.trans hpast'⟩
  · intro v hv
    obtain ⟨v', hv', hcore⟩ := h.versions v hv
    obtain ⟨v'', hv'', hcore'⟩ := h'.versions v' hv'
    exact ⟨v'', hv'', hcore'.trans hcore⟩

/-- A version that came into effect is recorded, and was due. -/
def EffectsDue (now : Time) (h h' : ForumHost) : Prop :=
  ∀ b ∈ h'.boards.rows,
    (h.boards.get b.hostedBoardId).map (·.accessPolicyVersion) = some b.accessPolicyVersion ∨
      ∃ v ∈ h'.policyVersions, v.hostedBoardId = b.hostedBoardId ∧
        v.version = b.accessPolicyVersion ∧ v.effectiveAt ≤ now

theorem EffectsDue.of_boards {now : Time} (hboards : h'.boards = h.boards) :
    EffectsDue now h h' := by
  intro b hb
  rw [hboards] at hb
  exact .inl (by rw [BoardTable.get_eq_some.2 ⟨hb, rfl⟩]; rfl)

theorem mem_versionsOf {id : String} :
    v ∈ versionsOf h id ↔ v ∈ h.policyVersions ∧ v.hostedBoardId = id := by
  rw [versionsOf, List.mem_filter, decide_eq_true_eq]

theorem versionsOf_append (hversions : h'.policyVersions = h.policyVersions ++ [v]) (id : String) :
    versionsOf h' id = versionsOf h id ++ if v.hostedBoardId = id then [v] else [] := by
  rw [versionsOf, hversions, List.filter_append, ← versionsOf]
  congr 1
  by_cases hid : v.hostedBoardId = id
  · simp [hid]
  · simp [hid]

/-- The versions that are not before the board's own: the numbers go on from it. -/
theorem BoardSound.version_mem (h : BoardSound versions b) (hv : v ∈ versions) :
    1 ≤ v.version ∧ v.version ≤ b.accessPolicyVersion + 1 := by
  obtain ⟨n, hnumbers, hn⟩ := h.numbers
  have hmem : v.version ∈ versions.map (·.version) := List.mem_map_of_mem hv
  rw [hnumbers, mem_upTo] at hmem
  omega

/-- Without a version that is pending, the numbers end with that of the board. -/
theorem BoardSound.numbers_of_not_pending (h : BoardSound versions b)
    (hpending : ∀ v ∈ versions, pending b v = false) :
    ∃ n : ℕ, versions.map (·.version) = upTo n ∧
      b.accessPolicyVersion = n := by
  obtain ⟨n, hnumbers, hn | hn⟩ := h.numbers
  · exact ⟨n, hnumbers, hn⟩
  -- the last version would be pending
  obtain ⟨v, hv, -, -⟩ := h.current
  have hmem : v.version ∈ versions.map (·.version) := List.mem_map_of_mem hv
  rw [hnumbers, mem_upTo] at hmem
  have hlast : (n : ℤ) ∈ versions.map (·.version) := by
    rw [hnumbers, mem_upTo]
    omega
  obtain ⟨w, hw, hversion⟩ := List.mem_map.1 hlast
  have hnone := (h.superseded w hw).2 (by omega)
  have hfalse := hpending w hw
  rw [pending, hnone, decide_eq_true (by omega)] at hfalse
  cases hfalse

theorem BoardSound.pending_length (h : BoardSound versions b) :
    (versions.filter (pending b)).length ≤ 1 := by
  obtain ⟨n, hnumbers, -⟩ := h.numbers
  have hnodup : (versions.map (·.version)).Nodup := by
    rw [hnumbers]
    exact nodup_upTo n
  have hsub : ((versions.filter (pending b)).map (·.version)).Nodup :=
    hnodup.sublist (List.filter_sublist.map _)
  have hsubset : (versions.filter (pending b)).map (·.version) ⊆ [b.accessPolicyVersion + 1] := by
    intro k hk
    obtain ⟨v, hv, rfl⟩ := List.mem_map.1 hk
    obtain ⟨hmem, hpending⟩ := List.mem_filter.1 hv
    rw [pending, Bool.and_eq_true, decide_eq_true_eq] at hpending
    have hbound := (h.version_mem hmem).2
    exact List.mem_singleton.2 (by omega)
  have hle := (List.subperm_of_subset hsub hsubset).length_le
  rwa [List.length_map] at hle

/-! ### A new board -/

theorem ofJson_toText (v : Visibility) : Visibility.ofJson (.str v.toText) = some v := by
  cases v <;> rfl

theorem holds_self (j : Json) : Holds j j := .inl rfl

/-- A policy of documents is the one that its columns hold. -/
theorem policyChanges_policyJson {access federation : Json} (visibility : Visibility)
    (haccess : ∃ f, access = .obj f) (hfederation : ∃ f, federation = .obj f) :
    policyChanges (policyJson access visibility federation)
      = some (access, visibility, federation) := by
  obtain ⟨f, rfl⟩ := haccess
  obtain ⟨g, rfl⟩ := hfederation
  have hvisibility : Visibility.ofJson ((policyJson (.obj f) visibility (.obj g)).fetch
      "content_visibility") = some visibility := ofJson_toText visibility
  rw [policyChanges, hvisibility]
  rfl

theorem HostSound.create {now : Time} (hs : HostSound h) (hc : BoardCreation.Created P now b h h') :
    HostSound h' ∧ Later h h' ∧ EffectsDue now h h' := by
  have hnone : ∀ c ∈ h.boards.rows, c.hostedBoardId ≠ b.hostedBoardId := by
    intro c hc' heq
    have hget := BoardTable.get_eq_some.2 ⟨hc', heq⟩
    rw [hc.fresh] at hget
    cases hget
  have hof : ∀ id, versionsOf h' id = versionsOf h id ++
      if b.hostedBoardId = id then [BoardCreation.firstVersion P now b] else [] :=
    versionsOf_append hc.policyVersions
  -- no version is there before its board
  have hold : versionsOf h b.hostedBoardId = [] := by
    rw [versionsOf, List.filter_eq_nil_iff]
    intro v hv hid
    obtain ⟨c, hmem, hcid⟩ := hs.foreign v hv
    rw [decide_eq_true_eq] at hid
    exact hnone c hmem (hcid.trans hid)
  refine ⟨⟨?_, ?_⟩, ⟨?_, ?_⟩, ?_⟩
  · intro c hmem
    rw [hc.boards, List.mem_append, List.mem_singleton] at hmem
    rcases hmem with hmem | rfl
    · rw [hof, if_neg (Ne.symm (hnone c hmem)), List.append_nil]
      exact hs.boards c hmem
    · rw [hof, if_pos rfl, hold, List.nil_append]
      have hversion : (BoardCreation.firstVersion P now c).version = c.accessPolicyVersion := rfl
      refine ⟨⟨1, ?_, .inl hc.version⟩, ?_, _, List.mem_singleton_self _, hversion, ?_⟩
      · rw [List.map_singleton, hversion, hc.version]
        rfl
      · intro v hv
        obtain rfl := List.mem_singleton.1 hv
        exact ⟨fun _ => le_of_eq hversion.symm, fun _ => rfl⟩
      · exact ⟨_, _, _, policyChanges_policyJson _ hc.access hc.federation, holds_self _, rfl,
          holds_self _⟩
  · intro v hv
    rw [hc.policyVersions, List.mem_append, List.mem_singleton] at hv
    rw [hc.boards]
    rcases hv with hv | rfl
    · obtain ⟨c, hmem, hid⟩ := hs.foreign v hv
      exact ⟨c, List.mem_append_left _ hmem, hid⟩
    · exact ⟨b, List.mem_append_right _ (List.mem_singleton_self b), rfl⟩
  · intro c hmem
    exact ⟨c, hc.boards ▸ List.mem_append_left _ hmem, .refl c⟩
  · intro v hv
    exact ⟨v, hc.policyVersions ▸ List.mem_append_left _ hv, rfl⟩
  · intro c hmem
    rw [hc.boards, List.mem_append, List.mem_singleton] at hmem
    rcases hmem with hmem | rfl
    · exact .inl (by rw [BoardTable.get_eq_some.2 ⟨hmem, rfl⟩]; rfl)
    · refine .inr ⟨BoardCreation.firstVersion P now c, ?_, rfl, rfl, le_refl now⟩
      rw [hc.policyVersions]
      exact List.mem_append_right _ (List.mem_singleton_self _)

/-! ### The next version -/

/-- The next version is recorded when none is pending. -/
theorem HostSound.record {now : Time} (hs : HostSound h) (hb : b ∈ h.boards.rows)
    (hpending : ∀ w ∈ versionsOf h b.hostedBoardId, pending b w = false)
    (hid : v.hostedBoardId = b.hostedBoardId) (hversion : v.version = b.accessPolicyVersion + 1)
    (hnone : v.supersededAt = none) (hboards : h'.boards = h.boards)
    (hversions : h'.policyVersions = h.policyVersions ++ [v]) :
    HostSound h' ∧ Later h h' ∧ EffectsDue now h h' := by
  have hof := versionsOf_append hversions
  refine ⟨⟨?_, ?_⟩, ⟨?_, ?_⟩, .of_boards hboards⟩
  · intro c hc
    rw [hboards] at hc
    have hsound := hs.boards c hc
    rw [hof, hid]
    by_cases hcb : b.hostedBoardId = c.hostedBoardId
    · obtain rfl : b = c := h.boards.valid.hosted_board_id.eq hb hc rfl rfl hcb
      rw [if_pos rfl]
      obtain ⟨n, hnumbers, hn⟩ := hsound.numbers_of_not_pending hpending
      refine ⟨⟨n + 1, ?_, .inr (by omega)⟩, ?_, ?_⟩
      · rw [List.map_append, hnumbers, List.map_singleton, hversion, hn, upTo_succ]
      · intro w hw
        rcases List.mem_append.1 hw with hw | hw
        · exact hsound.superseded w hw
        · obtain rfl := List.mem_singleton.1 hw
          exact ⟨fun _ => by omega, fun _ => hnone⟩
      · obtain ⟨w, hw, hcurrent⟩ := hsound.current
        exact ⟨w, List.mem_append_left _ hw, hcurrent⟩
    · rw [if_neg hcb, List.append_nil]
      exact hsound
  · intro w hw
    rw [hversions, List.mem_append, List.mem_singleton] at hw
    rw [hboards]
    rcases hw with hw | rfl
    · exact hs.foreign w hw
    · exact ⟨b, hb, hid.symm⟩
  · intro c hc
    exact ⟨c, hboards ▸ hc, .refl c⟩
  · intro w hw
    exact ⟨w, hversions ▸ List.mem_append_left _ hw, rfl⟩

/-! ### Activations -/

section Activate

variable {now : Time} {id : String} {version : ℤ}

theorem superseded_core (v : BoardPolicyVersion) :
    (superseded now id version v).core = v.core := by
  unfold superseded
  split <;> rfl

theorem superseded_hostedBoardId (v : BoardPolicyVersion) :
    (superseded now id version v).hostedBoardId = v.hostedBoardId :=
  congrArg Prod.fst (superseded_core v)

theorem superseded_version (v : BoardPolicyVersion) :
    (superseded now id version v).version = v.version :=
  congrArg (fun c => c.2.1) (superseded_core v)

theorem superseded_canonicalPolicy (v : BoardPolicyVersion) :
    (superseded now id version v).canonicalPolicy = v.canonicalPolicy :=
  congrArg (fun c => c.2.2.1) (superseded_core v)

/-- A version of the board is in force after the call when it was before and is not an earlier
one. -/
theorem superseded_supersededAt (hid : v.hostedBoardId = id) :
    (superseded now id version v).supersededAt = none ↔
      v.supersededAt = none ∧ version ≤ v.version := by
  unfold superseded
  by_cases hlt : v.version < version
  · by_cases hnone : v.supersededAt = none
    · rw [if_pos ⟨hid, hlt, hnone⟩]
      constructor
      · intro h
        cases h
      · intro h
        omega
    · rw [if_neg fun h => hnone h.2.2]
      exact ⟨fun h => absurd h hnone, fun h => h.1⟩
  · rw [if_neg fun h => hlt h.2.1]
    exact ⟨fun h => ⟨h, by omega⟩, fun h => h.1⟩

theorem superseded_of_ne (hid : v.hostedBoardId ≠ id) :
    superseded now id version v = v := if_neg fun h => hid h.1

theorem versionsOf_supersede
    (hversions : h'.policyVersions = supersede now id version h.policyVersions) (id' : String) :
    versionsOf h' id' = (versionsOf h id').map (superseded now id version) := by
  rw [versionsOf, hversions, supersede, List.filter_map, versionsOf]
  congr 1
  refine List.filter_congr fun v _ => ?_
  rw [Function.comp_apply, superseded_hostedBoardId]

/-- The version that follows that of the board is applied to it. -/
theorem HostSound.activate {u : BoardUpdate} (hs : HostSound h) (hb : b ∈ h.boards.rows)
    (hv : v ∈ h.policyVersions) (hid : v.hostedBoardId = b.hostedBoardId)
    (hversion : v.version = b.accessPolicyVersion + 1) (hdue : v.effectiveAt ≤ now)
    (happly : (u.apply b).accessPolicyVersion = b.accessPolicyVersion + 1)
    (hagrees : Agrees (u.apply b) v.canonicalPolicy)
    (hboards : h'.boards = h.boards.modify b.hostedBoardId u)
    (hversions : h'.policyVersions
      = supersede now b.hostedBoardId (b.accessPolicyVersion + 1) h.policyVersions) :
    HostSound h' ∧ Later h h' ∧ EffectsDue now h h' := by
  have hof := versionsOf_supersede hversions
  have hrows : h'.boards.rows = h.boards.rows.map (u.at b.hostedBoardId) := by
    rw [hboards, BoardTable.rows_modify]
  have hat : u.at b.hostedBoardId b = u.apply b := if_pos rfl
  have hother : ∀ c, c.hostedBoardId ≠ b.hostedBoardId → u.at b.hostedBoardId c = c :=
    fun c hne => if_neg hne
  -- the board is changed, and no other
  have hsplit : ∀ c ∈ h.boards.rows, c = b ∨ c.hostedBoardId ≠ b.hostedBoardId := by
    intro c hc
    by_cases hcb : c.hostedBoardId = b.hostedBoardId
    · exact .inl (h.boards.valid.hosted_board_id.eq hc hb rfl rfl hcb)
    · exact .inr hcb
  have hmem' : superseded now b.hostedBoardId (b.accessPolicyVersion + 1) v
      ∈ h'.policyVersions := hversions ▸ List.mem_map_of_mem hv
  refine ⟨⟨?_, ?_⟩, ⟨?_, ?_⟩, ?_⟩
  · intro c' hc'
    rw [hrows] at hc'
    obtain ⟨c, hc, rfl⟩ := List.mem_map.1 hc'
    have hsound := hs.boards c hc
    rw [BoardUpdate.at_hostedBoardId, hof]
    rcases hsplit c hc with rfl | hne
    · rw [hat]
      have hvmem : v ∈ versionsOf h c.hostedBoardId := mem_versionsOf.2 ⟨hv, hid⟩
      refine ⟨?_, ?_, ?_⟩
      · -- numbers stay, and what is superseded lies below the version that is applied
        obtain ⟨n, hnumbers, hn⟩ := hsound.numbers
        have hin : v.version ∈ (versionsOf h c.hostedBoardId).map (·.version) :=
          List.mem_map_of_mem hvmem
        rw [hnumbers, mem_upTo] at hin
        refine ⟨n, ?_, .inl (by omega)⟩
        rw [List.map_map, ← hnumbers]
        exact List.map_congr_left fun w _ => superseded_version w
      · intro w' hw'
        obtain ⟨w, hw, rfl⟩ := List.mem_map.1 hw'
        rw [superseded_supersededAt (mem_versionsOf.1 hw).2, superseded_version,
          hsound.superseded w hw, happly]
        omega
      · refine ⟨_, List.mem_map_of_mem hvmem, ?_, ?_⟩
        · rw [superseded_version, happly, hversion]
        · rw [superseded_canonicalPolicy]
          exact hagrees
    · rw [hother c hne]
      have hsame : (versionsOf h c.hostedBoardId).map
          (superseded now b.hostedBoardId (b.accessPolicyVersion + 1))
            = versionsOf h c.hostedBoardId := by
        refine (List.map_congr_left fun w hw => ?_).trans (List.map_id _)
        rw [superseded_of_ne fun heq => hne ((mem_versionsOf.1 hw).2.symm.trans heq), id]
      rw [hsame]
      exact hsound
  · intro w' hw'
    rw [hversions] at hw'
    obtain ⟨w, hw, rfl⟩ := List.mem_map.1 hw'
    obtain ⟨c, hc, hcid⟩ := hs.foreign w hw
    refine ⟨u.at b.hostedBoardId c, hrows ▸ List.mem_map_of_mem hc, ?_⟩
    rw [BoardUpdate.at_hostedBoardId, hcid]
    exact (superseded_hostedBoardId w).symm
  · intro c hc
    refine ⟨u.at b.hostedBoardId c, hrows ▸ List.mem_map_of_mem hc, ?_⟩
    rcases hsplit c hc with rfl | hne
    · rw [hat]
      refine ⟨u.hostedBoardId_eq c, by omega, fun heq => ?_⟩
      omega
    · rw [hother c hne]
      exact .refl c
  · intro w hw
    refine ⟨superseded now b.hostedBoardId (b.accessPolicyVersion + 1) w, ?_, superseded_core w⟩
    rw [hversions]
    exact List.mem_map_of_mem hw
  · intro c' hc'
    rw [hrows] at hc'
    obtain ⟨c, hc, rfl⟩ := List.mem_map.1 hc'
    rcases hsplit c hc with rfl | hne
    · refine .inr ⟨_, hmem', ?_, ?_, ?_⟩
      · rw [superseded_hostedBoardId, BoardUpdate.at_hostedBoardId, hid]
      · rw [superseded_version, hat, happly, hversion]
      · have heffective : (superseded now c.hostedBoardId (c.accessPolicyVersion + 1) v).effectiveAt
            = v.effectiveAt := congrArg (fun k => k.2.2.2) (superseded_core v)
        rw [heffective]
        exact hdue
    · rw [hother c hne, BoardTable.get_eq_some.2 ⟨hc, rfl⟩]
      exact .inl rfl

end Activate

/-! ### Changes of policies -/

theorem verifyPolicyApprovals_host (P : Platform) (now : Time) (b : ForumHostBoard)
    (r : PolicyRequest) (s : Deployment) :
    (verifyPolicyApprovals P now b r s).2.host = s.host := by
  unfold verifyPolicyApprovals
  dsimp only
  split
  · rfl
  · split
    · rfl
    · split_ifs <;> rfl

theorem boards_insertAcceptedIntent {s t : Deployment}
    (h : insertAcceptedIntent P r s = (.ok (), t)) : t.host.boards = s.host.boards := by
  unfold insertAcceptedIntent at h
  split at h
  · obtain rfl := (Prod.mk.inj h).2
    rfl
  · cases h

theorem normalize_objects (h : normalizeBoardPolicyAttrs C i = .ok r) :
    (∃ f, r.accessPolicy = .obj f) ∧ ∃ f, r.federationPolicy = .obj f := by
  unfold normalizeBoardPolicyAttrs at h
  split at h
  · split at h
    · cases h
    · split at h
      · split at h
        · split at h
          · cases h
          · cases h
            exact ⟨⟨_, rfl⟩, ⟨_, rfl⟩⟩
        · cases h
      · cases h
  · cases h

/-- What the last step of a change writes: the version, and for one that is effective the
policy. -/
inductive Persisted (P : Platform) (now : Time) (b : ForumHostBoard) (r : PolicyRequest)
    (h h' : ForumHost) : Prop
  | later (boards : h'.boards = h.boards)
      (versions : h'.policyVersions = h.policyVersions ++ [nextVersion P b r])
  | atOnce (effective : r.effectiveAt ≤ now)
      (boards : h'.boards = h.boards.modify b.hostedBoardId
        (applyPolicyVersion r.accessPolicy r.contentVisibility r.federationPolicy))
      (versions : h'.policyVersions = supersede now b.hostedBoardId (b.accessPolicyVersion + 1)
        (h.policyVersions ++ [nextVersion P b r]))

theorem persist_cases {now : Time} {c : ForumHostBoard} {s t : Deployment}
    (haccess : ∃ f, r.accessPolicy = .obj f) (hfederation : ∃ f, r.federationPolicy = .obj f)
    (h : persistBoardPolicyUpdate P C now b r s = (.ok c, t)) :
    Persisted P now b r s.host t.host := by
  unfold persistBoardPolicyUpdate at h
  dsimp only at h
  split at h
  · cases h
  split at h
  · cases h
  split at h
  · obtain rfl := (Prod.mk.inj h).2
    exact .later rfl rfl
  next hnow =>
  split at h
  · cases h
  next hadmissible =>
  rw [not_not] at hadmissible
  have hchanges : policyChanges (nextVersion P b r).canonicalPolicy
      = some (r.accessPolicy, r.contentVisibility, r.federationPolicy) :=
    policyChanges_policyJson r.contentVisibility haccess hfederation
  unfold activatePolicyVersion at h
  rw [hchanges] at h
  dsimp only at h
  rw [if_pos hadmissible] at h
  obtain rfl := (Prod.mk.inj h).2
  exact .atOnce (le_of_not_gt hnow) rfl rfl

/-- What the code has checked of a change that it has recorded. -/
structure Recorded (P : Platform) (C : HostConfig) (now : Time) (i : PolicyIntent)
    (r : PolicyRequest) (b : ForumHostBoard) (h h' : ForumHost) : Prop where
  normalized : normalizeBoardPolicyAttrs C i = .ok r
  board : h.boards.get r.boardId = some b
  notPending : ∀ v ∈ versionsOf h b.hostedBoardId, pending b v = false
  delayed : sensitivePolicyChange b r = true → now + sensitiveDelay ≤ r.effectiveAt
  persisted : Persisted P now b r h h'

/-- **A change of a policy records the next version after its checks, or writes nothing to boards
and versions.** -/
theorem updateBoardPolicy_cases (P : Platform) (C : HostConfig) (now : Time) (i : PolicyIntent)
    (s : Deployment) :
    ((updateBoardPolicy P C now i s).2.host = s.host) ∨
      ∃ r b, Recorded P C now i r b s.host (updateBoardPolicy P C now i s).2.host := by
  rcases h : updateBoardPolicy P C now i s with ⟨e | c, t⟩
  · -- a change that fails is taken back
    left
    unfold updateBoardPolicy at h
    rw [Checked.bind_apply, Checked.lift_apply] at h
    generalize normalizeBoardPolicyAttrs C i = request at h
    cases request with
    | error e' => rw [← (Prod.mk.inj h).2]
    | ok r =>
      dsimp only [transaction] at h
      split at h
      · cases h
      · rw [← (Prod.mk.inj h).2]
  · unfold updateBoardPolicy at h
    obtain ⟨r, s₁, hlift, hrest⟩ := Checked.bind_eq_ok.1 h
    obtain ⟨hr, rfl⟩ := Checked.lift_eq_ok.1 hlift
    obtain ⟨b, s₂, hfetch, hchange⟩ := Checked.bind_eq_ok.1 (transaction_eq_ok.1 hrest)
    obtain ⟨hb, rfl⟩ := Checked.look_eq_ok.1 hfetch
    have hboard : s₂.host.boards.get r.boardId = some b := by
      split at hb
      · cases hb
      · next b' hget =>
        split at hb
        · rw [hget, Except.ok.inj hb]
        · cases hb
    split at hchange
    · exact .inl (congrArg (fun u => u.host) (Prod.mk.inj hchange).2).symm
    right
    unfold changePolicy at hchange
    -- the change has passed each of its steps
    obtain ⟨_, s₃, hinsert, hchange₁⟩ := Checked.bind_eq_ok.1 hchange
    obtain ⟨_, _, hpending, hchange₂⟩ := Checked.bind_eq_ok.1 hchange₁
    obtain ⟨hlooked, rfl⟩ := Checked.look_eq_ok.1 hpending
    obtain ⟨_, s₄, hhash, hchange₃⟩ := Checked.bind_eq_ok.1 hchange₂
    obtain ⟨-, rfl⟩ := Checked.lift_eq_ok.1 hhash
    obtain ⟨_, s₅, hverified, hchange₄⟩ := Checked.bind_eq_ok.1 hchange₃
    obtain ⟨_, s₆, hdelay, hpersist⟩ := Checked.bind_eq_ok.1 hchange₄
    obtain ⟨hwaits, rfl⟩ := Checked.lift_eq_ok.1 hdelay
    obtain ⟨-, hversions, -⟩ := boardCreator_insertAcceptedIntent hinsert
    have hboards := boards_insertAcceptedIntent hinsert
    have hhost : s₆.host = s₄.host := by
      have hkept := verifyPolicyApprovals_host P now b r s₄
      rw [hverified] at hkept
      exact hkept
    have hobjects := normalize_objects hr
    refine ⟨r, b, hr, hboard, ?_, ?_, ?_⟩
    · intro v hv
      obtain ⟨hmem, hid⟩ := mem_versionsOf.1 hv
      have hnone := ensure_eq_ok.1 hlooked
      rw [Bool.not_eq_true', hversions, List.any_eq_false] at hnone
      have hnot := hnone v hmem
      rw [hid, beq_self_eq_true, Bool.true_and, Bool.not_eq_true] at hnot
      exact hnot
    · intro hsensitive
      have hnot := ensure_eq_ok.1 hwaits
      rw [hsensitive, Bool.true_and, Bool.not_eq_true', decide_eq_false_iff_not] at hnot
      exact le_of_not_gt hnot
    · have hpersisted := persist_cases hobjects.1 hobjects.2 hpersist
      rw [hhost] at hpersisted
      cases hpersisted with
      | later boards versions =>
        exact .later (boards.trans hboards) (versions.trans (by rw [hversions]))
      | atOnce effective boards versions =>
        exact .atOnce effective (boards.trans (by rw [hboards]))
          (versions.trans (by rw [hversions]))

/-! ### Runs -/

/-- What holds of the system in careful runs. -/
structure PolicySound (s : PolicySystem) : Prop where
  host : HostSound s.host
  reads : ∀ r ∈ s.reads, ∃ b ∈ s.host.boards.rows, PastOf r b
  due : ∀ a ∈ s.due, (∃ b ∈ s.host.boards.rows, PastOf a.board b) ∧
    a.version.hostedBoardId = a.board.hostedBoardId ∧
    a.version.version = a.board.accessPolicyVersion + 1 ∧ a.version.effectiveAt ≤ a.now ∧
    ∃ v ∈ s.host.policyVersions, v.core = a.version.core
  proposals : ∀ p ∈ s.proposals, ∃ v ∈ s.host.policyVersions,
    v.hostedBoardId = p.board.hostedBoardId ∧ v.version = p.board.accessPolicyVersion + 1 ∧
      v.effectiveAt = p.request.effectiveAt
  effects : ∀ e ∈ s.effects, ∃ v ∈ s.host.policyVersions, v.hostedBoardId = e.boardId ∧
    v.version = e.version ∧ v.effectiveAt ≤ e.time
  active : ∀ b ∈ s.host.boards.rows, ∃ e ∈ s.effects, e.boardId = b.hostedBoardId ∧
    e.version = b.accessPolicyVersion
  delayed : ∀ p ∈ s.proposals, Loosens p.board p.request →
    p.now + sensitiveDelay ≤ p.request.effectiveAt

theorem core_eq {w : BoardPolicyVersion} (h : v.core = w.core) :
    v.hostedBoardId = w.hostedBoardId ∧ v.version = w.version ∧
      v.canonicalPolicy = w.canonicalPolicy ∧ v.effectiveAt = w.effectiveAt :=
  ⟨congrArg Prod.fst h, congrArg (fun c => c.2.1) h, congrArg (fun c => c.2.2.1) h,
    congrArg (fun c => c.2.2.2) h⟩

/-- Writes that keep what is known keep the invariant, but for new proposals. -/
theorem PolicySound.moved (hs : PolicySound s) {now : Time} {d : Deployment}
    (hmove : HostSound d.host ∧ Later s.host d.host ∧ EffectsDue now s.host d.host) :
    PolicySound (s.moved now d) := by
  obtain ⟨hhost, hlater, hdue⟩ := hmove
  have hpast : ∀ r : ForumHostBoard, (∃ b ∈ s.host.boards.rows, PastOf r b) →
      ∃ b ∈ d.host.boards.rows, PastOf r b := by
    rintro r ⟨b, hb, hr⟩
    obtain ⟨b', hb', hlate⟩ := hlater.boards b hb
    exact ⟨b', hb', hr.trans hlate⟩
  refine ⟨hhost, fun r hr => hpast r (hs.reads r hr), ?_, ?_, ?_, ?_, hs.delayed⟩
  · intro a ha
    obtain ⟨hboard, hid, hversion, heffective, v, hv, hcore⟩ := hs.due a ha
    obtain ⟨v', hv', hcore'⟩ := hlater.versions v hv
    exact ⟨hpast _ hboard, hid, hversion, heffective, v', hv', hcore'.trans hcore⟩
  · intro p hp
    obtain ⟨v, hv, hid, hversion, heffective⟩ := hs.proposals p hp
    obtain ⟨v', hv', hcore⟩ := hlater.versions v hv
    obtain ⟨hid', hversion', -, heffective'⟩ := core_eq hcore
    exact ⟨v', hv', hid'.trans hid, hversion'.trans hversion, heffective'.trans heffective⟩
  · intro e he
    rcases List.mem_append.1 he with he | he
    · obtain ⟨v, hv, hid, hversion, heffective⟩ := hs.effects e he
      obtain ⟨v', hv', hcore⟩ := hlater.versions v hv
      obtain ⟨hid', hversion', -, heffective'⟩ := core_eq hcore
      exact ⟨v', hv', hid'.trans hid, hversion'.trans hversion,
        le_of_eq_of_le heffective' heffective⟩
    · obtain ⟨b, hb, hnew⟩ := List.mem_filterMap.1 he
      split at hnew
      · cases hnew
      next hne =>
      cases hnew
      rcases hdue b hb with hsame | hv
      · exact absurd hsame hne
      · exact hv
  · intro b hb
    -- a version that is new on the board is recorded with this time
    by_cases hsame : (s.host.boards.get b.hostedBoardId).map (·.accessPolicyVersion)
        = some b.accessPolicyVersion
    · obtain ⟨b₀, hget, hversion⟩ := Option.map_eq_some_iff.1 hsame
      obtain ⟨hmem, hid⟩ := BoardTable.get_eq_some.1 hget
      obtain ⟨e, he, heid, heversion⟩ := hs.active b₀ hmem
      exact ⟨e, List.mem_append_left _ he, heid.trans hid, heversion.trans hversion⟩
    · refine ⟨⟨b.hostedBoardId, b.accessPolicyVersion, now⟩, List.mem_append_right _ ?_, rfl, rfl⟩
      exact List.mem_filterMap.2 ⟨b, hb, if_neg hsame⟩

theorem moved_refl {now : Time} (hs : HostSound h) (heq : h' = h) :
    HostSound h' ∧ Later h h' ∧ EffectsDue now h h' := by
  subst heq
  exact ⟨hs, .refl h', .of_boards rfl⟩

theorem HostSound.persisted {now : Time} (hs : HostSound h) (hr : Recorded P C now i r b h h') :
    HostSound h' ∧ Later h h' ∧ EffectsDue now h h' := by
  have hb := (BoardTable.get_eq_some.1 hr.board).1
  have hobjects := normalize_objects hr.normalized
  -- the host with the version recorded only
  obtain ⟨h₁, hboards₁, hversions₁⟩ : ∃ h₁ : ForumHost, h₁.boards = h.boards ∧
      h₁.policyVersions = h.policyVersions ++ [nextVersion P b r] :=
    ⟨{ h with policyVersions := h.policyVersions ++ [nextVersion P b r] }, rfl, rfl⟩
  have hrecord : ∀ g : ForumHost, g.boards = h.boards →
      g.policyVersions = h.policyVersions ++ [nextVersion P b r] →
        HostSound g ∧ Later h g ∧ EffectsDue now h g := fun g hboards hversions =>
    hs.record hb hr.notPending rfl rfl rfl hboards hversions
  cases hr.persisted with
  | later boards versions => exact hrecord h' boards versions
  | atOnce effective boards versions =>
    obtain ⟨hs₁, hlater₁, -⟩ := hrecord h₁ hboards₁ hversions₁
    have hmem : nextVersion P b r ∈ h₁.policyVersions :=
      hversions₁ ▸ List.mem_append_right _ (List.mem_singleton_self _)
    obtain ⟨hs', hlater, hdue⟩ := hs₁.activate (hboards₁ ▸ hb) hmem rfl rfl effective
      (u := applyPolicyVersion r.accessPolicy r.contentVisibility r.federationPolicy) rfl
      ⟨_, _, _, policyChanges_policyJson _ hobjects.1 hobjects.2, holds_self _, rfl, holds_self _⟩
      (by rw [boards, hboards₁]) (by rw [versions, hversions₁])
    refine ⟨hs', hlater₁.trans hlater, fun c hc => ?_⟩
    rw [← hboards₁]
    exact hdue c hc

/-- An activation that finds the board at the version at which it was read is sound. -/
theorem HostSound.applyVersion {a : Activation} (hs : HostSound h)
    (hboard : ∃ b ∈ h.boards.rows, PastOf a.board b)
    (hid : a.version.hostedBoardId = a.board.hostedBoardId)
    (hversion : a.version.version = a.board.accessPolicyVersion + 1)
    (heffective : a.version.effectiveAt ≤ a.now)
    (hrow : ∃ v ∈ h.policyVersions, v.core = a.version.core)
    (hcareful : ∀ b, h.boards.get a.board.hostedBoardId = some b →
      b.accessPolicyVersion = a.board.accessPolicyVersion) :
    HostSound (applyVersion C a h) ∧ Later h (applyVersion C a h) ∧
      EffectsDue a.now h (applyVersion C a h) := by
  unfold Ansible.applyVersion
  split
  · exact moved_refl hs rfl
  next access visibility federation hchanges =>
  split
  swap
  · exact moved_refl hs rfl
  obtain ⟨b, hb, hpast⟩ := hboard
  obtain ⟨v, hv, hcore⟩ := hrow
  obtain ⟨hvid, hvversion, hvpolicy, hveffective⟩ := core_eq hcore
  -- the board is still as it was read
  have hsame := hcareful b (BoardTable.get_eq_some.2 ⟨hb, hpast.hostedBoardId⟩)
  obtain ⟨haccess, hvisibility, hfederation⟩ := hpast.same hsame.symm
  refine hs.activate hb hv (hvid.trans (hid.trans hpast.hostedBoardId.symm)) ?_
    (le_of_eq_of_le hveffective heffective)
    (u := writeChanges a.board access visibility federation) ?_ ?_ ?_ ?_
  · rw [hvversion, hversion, hsame]
  · rw [hsame]
    rfl
  · refine ⟨access, visibility, federation, hvpolicy ▸ hchanges, ?_, ?_, ?_⟩
    · show Holds (if access.eqv a.board.accessPolicy then b.accessPolicy else access) access
      split
      · next heqv => exact .inr (by rw [haccess]; exact heqv)
      · exact holds_self access
    · show (if visibility = a.board.contentVisibility then b.contentVisibility else visibility)
        = visibility
      split
      · next heq => rw [hvisibility, heq]
      · rfl
    · show Holds (if federation.eqv a.board.federationPolicy then b.federationPolicy
        else federation) federation
      split
      · next heqv => exact .inr (by rw [hfederation]; exact heqv)
      · exact holds_self federation
  · rw [hpast.hostedBoardId]
  · rw [hpast.hostedBoardId, hversion, hsame]

theorem dueVersion_spec {now : Time} (hv : dueVersion now b h = some v) : v ∈ h.policyVersions ∧
      v.hostedBoardId = b.hostedBoardId ∧ v.version = b.accessPolicyVersion + 1 ∧
        v.effectiveAt ≤ now := by
  have hprop := List.find?_some hv
  rw [Bool.and_eq_true, Bool.and_eq_true, Bool.and_eq_true, beq_iff_eq, beq_iff_eq,
    decide_eq_true_eq] at hprop
  exact ⟨List.mem_of_find?_eq_some hv, hprop.1.1.1, hprop.1.1.2, hprop.1.2⟩

/-- The new proposals of a step are those of the change that it has recorded. -/
theorem mem_newProposals {now : Time} {d : Deployment} {p : Proposal}
    (hp : p ∈ newProposals C now i d.host (updateBoardPolicy P C now i d).2.host) :
    p.now = now ∧ Recorded P C now i p.request p.board d.host
      (updateBoardPolicy P C now i d).2.host := by
  unfold newProposals at hp
  rcases updateBoardPolicy_cases P C now i d with heq | ⟨r, b, hrec⟩
  · rw [heq] at hp
    split at hp
    · split at hp
      · rw [if_pos rfl] at hp
        cases hp
      · cases hp
    · cases hp
  · rw [hrec.normalized] at hp
    dsimp only at hp
    rw [hrec.board] at hp
    dsimp only at hp
    split at hp
    · cases hp
    · obtain rfl := List.mem_singleton.1 hp
      exact ⟨rfl, hrec⟩

theorem Persisted.mem {now : Time} (hp : Persisted P now b r h h') :
    ∃ v ∈ h'.policyVersions, v.core = (nextVersion P b r).core := by
  cases hp with
  | later boards versions =>
    exact ⟨_, versions ▸ List.mem_append_right _ (List.mem_singleton_self _), rfl⟩
  | atOnce effective boards versions =>
    refine ⟨superseded now b.hostedBoardId (b.accessPolicyVersion + 1) (nextVersion P b r), ?_,
      superseded_core _⟩
    rw [versions, supersede]
    exact List.mem_map_of_mem (List.mem_append_right _ (List.mem_singleton_self _))

/-- **What a careful step preserves.** -/
theorem PolicySound.step {a : PolicyStep} (hs : PolicySound s) (hcareful : Careful C s a) :
    PolicySound (policyStep P C s a) ∧ Later s.host (policyStep P C s a).host := by
  cases a with
  | relay relay => exact ⟨⟨hs.host, hs.reads, hs.due, hs.proposals, hs.effects, hs.active,
      hs.delayed⟩, .refl _⟩
  | create now boardId i =>
    dsimp only [policyStep]
    split
    · next b host hok =>
      have hmove : HostSound host ∧ Later s.host host ∧ EffectsDue now s.host host := by
        rcases BoardCreation.createBoard_cases hok with heq | hc
        · exact moved_refl hs.host heq
        · exact hs.host.create hc
      exact ⟨hs.moved hmove, hmove.2.1⟩
    · exact ⟨hs, .refl _⟩
  | propose now i =>
    have hmove : HostSound (updateBoardPolicy P C now i s.deployment).2.host ∧
        Later s.host (updateBoardPolicy P C now i s.deployment).2.host ∧
          EffectsDue now s.host (updateBoardPolicy P C now i s.deployment).2.host := by
      rcases updateBoardPolicy_cases P C now i s.deployment with heq | ⟨r, b, hrec⟩
      · exact moved_refl hs.host heq
      · exact hs.host.persisted hrec
    obtain ⟨hhost, hreads, hdue, hproposals, heffects, hactive, hdelayed⟩ := hs.moved hmove
    refine ⟨⟨hhost, hreads, hdue, ?_, heffects, hactive, ?_⟩, hmove.2.1⟩
    · intro p hp
      rcases List.mem_append.1 hp with hp | hp
      · exact hproposals p hp
      · obtain ⟨-, hrec⟩ := mem_newProposals hp
        obtain ⟨v, hv, hcore⟩ := hrec.persisted.mem
        obtain ⟨hid, hversion, -, heffective⟩ := core_eq hcore
        exact ⟨v, hv, hid, hversion, heffective⟩
    · intro p hp hloosens
      rcases List.mem_append.1 hp with hp | hp
      · exact hdelayed p hp hloosens
      · obtain ⟨rfl, hrec⟩ := mem_newProposals hp
        -- the code delays what it takes to be sensitive; the rest is the condition
        rcases hcareful p.request p.board hrec.normalized hrec.board hloosens with hsens | hlate
        · exact hrec.delayed hsens
        · exact hlate
  | read id =>
    dsimp only [policyStep]
    split
    · next b hb =>
      refine ⟨⟨hs.host, ?_, hs.due, hs.proposals, hs.effects, hs.active, hs.delayed⟩, .refl _⟩
      intro r hr
      rcases List.mem_append.1 hr with hr | hr
      · exact hs.reads r hr
      · obtain rfl := List.mem_singleton.1 hr
        exact ⟨r, mem_namedBoard hb, .refl r⟩
    · exact ⟨hs, .refl _⟩
  | due n now =>
    dsimp only [policyStep]
    split
    · next b hb =>
      split
      · next v hv =>
        refine ⟨⟨hs.host, hs.reads, ?_, hs.proposals, hs.effects, hs.active, hs.delayed⟩, .refl _⟩
        intro a ha
        rcases List.mem_append.1 ha with ha | ha
        · exact hs.due a ha
        · obtain rfl := List.mem_singleton.1 ha
          obtain ⟨hmem, hid, hversion, heffective⟩ := dueVersion_spec hv
          exact ⟨hs.reads b (List.mem_of_getElem? hb), hid, hversion, heffective, v, hmem, rfl⟩
      · exact ⟨hs, .refl _⟩
    · exact ⟨hs, .refl _⟩
  | apply n =>
    -- the version was read earlier, and the board is still at the one before it
    have hnext := hcareful
    dsimp only [policyStep]
    split
    · next a ha =>
      obtain ⟨hboard, hid, hversion, heffective, hrow⟩ := hs.due a (List.mem_of_getElem? ha)
      have hmove := hs.host.applyVersion (C := C) hboard hid hversion heffective hrow
        (hnext a ha)
      exact ⟨hs.moved hmove, hmove.2.1⟩
    · exact ⟨hs, .refl _⟩

theorem policySound_empty : PolicySound .empty := by
  refine ⟨⟨?_, ?_⟩, ?_, ?_, ?_, ?_, ?_, ?_⟩ <;> intro x hx <;> cases hx

theorem PolicySound.law (hs : PolicySound s) : PolicyLaw s := by
  refine ⟨?_, ?_, ?_, ?_⟩
  · intro b hb
    obtain ⟨n, hnumbers, -⟩ := (hs.host.boards b hb).numbers
    exact ⟨n, hnumbers⟩
  · intro b hb
    exact (hs.host.boards b hb).pending_length
  · intro b hb
    obtain ⟨v, hv, hversion, hagrees⟩ := (hs.host.boards b hb).current
    exact ⟨v, hv, hversion, hagrees, hs.active b hb⟩
  · intro p hp hloosens e he hid hversion
    obtain ⟨v, hv, hvid, hvversion, hveffective⟩ := hs.proposals p hp
    obtain ⟨w, hw, hwid, hwversion, hweffective⟩ := hs.effects e he
    -- the version of the proposal and the one in effect are one
    obtain ⟨b, hb, hbid⟩ := hs.host.foreign v hv
    obtain ⟨n, hnumbers, -⟩ := (hs.host.boards b hb).numbers
    have hv' : v ∈ versionsOf s.host b.hostedBoardId := mem_versionsOf.2 ⟨hv, hbid.symm⟩
    have hw' : w ∈ versionsOf s.host b.hostedBoardId :=
      mem_versionsOf.2 ⟨hw, hwid.trans (hid.trans (hvid.symm.trans hbid.symm))⟩
    have hnodup : ((versionsOf s.host b.hostedBoardId).map (·.version)).Nodup := by
      rw [hnumbers]
      exact nodup_upTo n
    have heq : v = w := List.inj_on_of_nodup_map hnodup hv' hw' (by
      rw [hvversion, hwversion, hversion])
    calc p.now + sensitiveDelay ≤ p.request.effectiveAt := hs.delayed p hp hloosens
      _ = w.effectiveAt := by rw [← hveffective, heq]
      _ ≤ e.time := hweffective

/-- **In every run of careful steps the versions of each board are in order, its own version is
one that came into effect and never decreases, and what loosens is delayed.**  Two invariants are
carried: the state is sound, and it is later than the state in the middle of the run. -/
theorem policy_versions_law (P : Platform) (C : HostConfig) (pre post : List PolicyStep)
    (h : Along (policyStep P C) (Careful C) .empty (pre ++ post)) :
    PolicyLaw (exec (policyStep P C) .empty (pre ++ post)) ∧
      ∀ b ∈ (exec (policyStep P C) .empty pre).host.boards.rows,
        ∃ b' ∈ (exec (policyStep P C) .empty (pre ++ post)).host.boards.rows,
          b'.hostedBoardId = b.hostedBoardId ∧ b.accessPolicyVersion ≤ b'.accessPolicyVersion := by
  obtain ⟨hpre, hpost⟩ := along_append.1 h
  have hs : PolicySound (exec (policyStep P C) .empty pre) :=
    hpre.invariant (fun s a hs hok => (hs.step hok).1) policySound_empty
  rw [exec_append]
  generalize exec (policyStep P C) .empty pre = s at hs hpost
  have hlate : PolicySound (exec (policyStep P C) s post) ∧
      Later s.host (exec (policyStep P C) s post).host :=
    hpost.invariant (I := fun t => PolicySound t ∧ Later s.host t.host)
      (fun t a ht hok => ⟨(ht.1.step hok).1, ht.2.trans (ht.1.step hok).2⟩) ⟨hs, .refl _⟩
  refine ⟨hlate.1.law, fun b hb => ?_⟩
  obtain ⟨b', hb', hpast⟩ := hlate.2.boards b hb
  exact ⟨b', hb', hpast.hostedBoardId, hpast.le⟩

/-! ### A board of Alice -/

/-- Alice creates a board under the default policy. -/
def toyCreate : CreateBoardIntent := ⟨"i-1", "did:plc:alice", "T", .obj []⟩

/-- The default policy with another requirement for posts. -/
def toyPostPolicy (requirement : String) : Json :=
  policyJson (.obj [("version", .int 1), ("discovery", .str "public"),
    ("read", .obj [("requirement", .str "public")]),
    ("post", .obj [("requirement", .str requirement)]),
    ("moderate", .obj [("requirement", .str "board_moderator")]), ("requirements", .obj []),
    ("capability_ttl_seconds", .int 300), ("content_visibility", .str "public"),
    ("federation", .str "enabled")]) .isPublic
    (.obj [("mode", .str "enabled"), ("note", .str "second edition")])

/-- Alice asks for another requirement for posts. -/
def toyChange (requirement effectiveAt : String) : PolicyIntent where
  intentId := "i-2"
  authorDid := "did:plc:alice"
  boardId := "t"
  previousPolicyHash := String.ofList (hashOf .toy (policyJson BoardAccessPolicy.default .isPublic
    (.obj [("mode", .str "enabled")])))
  newPolicy := toyPostPolicy requirement
  effectiveAt := effectiveAt
  approvals := ∅

/-- Whoever may post is admitted, instead of those who meet the posting policy. -/
theorem loosens_post
    (hold : (BoardAccessPolicy.actionRequirement b.accessPolicy .post).str? = some "posting_policy")
    (hnew : (BoardAccessPolicy.actionRequirement r.accessPolicy .post).str? = some "public") :
    Loosens b r := by
  refine .inr ⟨.post, ⟨false, false, []⟩, ?_, ?_⟩
  · rw [Visitor.Admitted, Json.str?_eq_some.1 hnew]
    trivial
  · rw [Visitor.Admitted, Json.str?_eq_some.1 hold]
    exact Bool.false_ne_true

/-- The requirements for posts of a proposal, before and after it. -/
def Proposal.posts (p : Proposal) : String × ℤ × Time × Option String × Option String :=
  (p.board.hostedBoardId, p.board.accessPolicyVersion, p.now,
    (BoardAccessPolicy.actionRequirement p.board.accessPolicy .post).str?,
    (BoardAccessPolicy.actionRequirement p.request.accessPolicy .post).str?)

/-- The board is opened for posts of everyone after two days. -/
def toyDelayed : List PolicyStep :=
  [.propose 0 (toyChange "public" "1970-01-03T00:00:00Z"), .read "t", .due 0 (seconds 172800),
    .apply 0]

/-- What a careful step asks for, where it can be evaluated. -/
def carefulCheck (C : HostConfig) (s : PolicySystem) : PolicyStep → Bool
  | .propose now i => (normalizeBoardPolicyAttrs C i).toOption.all fun r =>
      decide (now + sensitiveDelay ≤ r.effectiveAt)
  | .apply n => (s.due[n]?).all fun a => (s.host.boards.get a.board.hostedBoardId).all fun b =>
      decide (b.accessPolicyVersion = a.board.accessPolicyVersion)
  | _ => true

theorem careful_of_check {a : PolicyStep} (h : carefulCheck C s a = true) : Careful C s a := by
  cases a with
  | propose now i =>
    intro r b hr _ _
    rw [carefulCheck, hr] at h
    exact .inr (of_decide_eq_true h)
  | apply n =>
    intro a ha b hb
    rw [carefulCheck, ha] at h
    dsimp only [Option.all] at h
    rw [hb] at h
    exact of_decide_eq_true h
  | _ => trivial

theorem along_careful_of_check {steps : List PolicyStep}
    (h : Along (policyStep P C) (fun s a => carefulCheck C s a = true) s steps) :
    Along (policyStep P C) (Careful C) s steps := by
  induction steps generalizing s with
  | nil => trivial
  | cons a steps ih => exact ⟨careful_of_check h.1, ih h.2⟩

theorem policy_versions_law_toy :
    PolicyLaw (exec (policyStep .toy {}) .empty ([.create 0 1 toyCreate] ++ toyDelayed)) ∧
      ∀ b ∈ (exec (policyStep .toy {}) .empty [.create 0 1 toyCreate]).host.boards.rows,
        ∃ b' ∈ (exec (policyStep .toy {}) .empty
            ([.create 0 1 toyCreate] ++ toyDelayed)).host.boards.rows,
          b'.hostedBoardId = b.hostedBoardId ∧ b.accessPolicyVersion ≤ b'.accessPolicyVersion :=
  policy_versions_law .toy {} _ _ (along_careful_of_check (by decide +kernel))

def toyLoosening : List PolicyStep :=
  [.create 0 1 toyCreate, .propose 0 (toyChange "public" "1970-01-01T00:00:00Z")]

/-- **A board is opened for posts of everyone at once**, by its creator alone. -/
theorem policy_loosened_at_once :
    ¬ ∀ steps, PolicyLaw (exec (policyStep .toy {}) .empty steps) := by
  intro hlaw
  have hdelayed := (hlaw toyLoosening).delayed
  have hposts : (exec (policyStep .toy {}) .empty toyLoosening).proposals.map Proposal.posts
      = [("t", 1, 0, some "posting_policy", some "public")] := by decide +kernel
  have heffect : (⟨"t", 2, 0⟩ : Effect) ∈
    (exec (policyStep .toy {}) .empty toyLoosening).effects := by
    decide +kernel
  generalize exec (policyStep .toy {}) .empty toyLoosening = s at hdelayed hposts heffect
  obtain ⟨p, hp, hpost⟩ := List.mem_map.1 (hposts ▸ List.mem_singleton_self _)
  obtain ⟨hid, hrest⟩ := Prod.mk.inj hpost
  obtain ⟨hversion, hrest⟩ := Prod.mk.inj hrest
  obtain ⟨hnow, hrest⟩ := Prod.mk.inj hrest
  obtain ⟨hold, hnew⟩ := Prod.mk.inj hrest
  have hlate := hdelayed p hp (loosens_post hold hnew) _ heffect hid.symm (by rw [hversion]; rfl)
  rw [hnow] at hlate
  exact absurd hlate (by decide)

end Ansible
