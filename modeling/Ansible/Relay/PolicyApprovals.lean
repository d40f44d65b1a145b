import Ansible.Relay.BoardGovernance
import Ansible.Relay.MigratedPairs

/-!
# Who has approved a change of a policy

The check counts approvals by their DIDs.  A governor who has migrated may approve under both of
the DIDs of the pair, and counts twice.

## Main definitions

* `EnoughOnce` — the threshold is met without the second approvals of the same governors.

## Main results

* `policy_approved_iff` — **what passes the check is approved by as many governors as the
  threshold asks for exactly when it passes without the second approvals.**
-/

namespace Ansible

namespace BoardGovernance

/-! ### Lookups of keys -/

/-- The two states agree on anchors and pairs, and lookups of keys answer the same. -/
structure SameAnswers (now : Time) (s t : Relay) : Prop where
  core : s.SameCore t
  answer : ∀ did, (IdentityCache.get now did t).1 = (IdentityCache.get now did s).1

namespace SameAnswers

variable {now : Time} {s t u : Relay}

theorem refl (s : Relay) : SameAnswers now s s := ⟨.refl s, fun _ => rfl⟩

theorem canonicalDid (h : SameAnswers now s t) (did : String) :
    t.canonicalDid did = s.canonicalDid did := by
  rw [Relay.canonicalDid, h.core.migrations, ← Relay.canonicalDid]

theorem equivalent (h : SameAnswers now s t) (left right : String) :
    BoardGovernance.equivalent t left right = BoardGovernance.equivalent s left right := by
  rw [BoardGovernance.equivalent, h.canonicalDid, h.canonicalDid, ← BoardGovernance.equivalent]

theorem equivalentMember (h : SameAnswers now s t) (did : String) (members : Json) :
    BoardGovernance.equivalentMember t did members =
      BoardGovernance.equivalentMember s did members := by
  unfold BoardGovernance.equivalentMember
  simp only [h.equivalent]

end SameAnswers

theorem sameAnswers_get (now : Time) (did : String) (s : Relay) :
    SameAnswers now s (IdentityCache.get now did s).2 :=
  ⟨(IdentityCache.get_core now did s).1, fun did' => IdentityCache.get_after_get now did did' s⟩

section Signatures

variable (P : Platform) (now : Time)

theorem sameAnswers_verifySignature (did : String) (message : Text) (sig : String) (s : Relay) :
    SameAnswers now s (IdentityCache.verifySignature P now did message sig s).2 := by
  have hget := sameAnswers_get now did s
  unfold IdentityCache.verifySignature
  generalize IdentityCache.get now did s = r at hget
  obtain ⟨_ | entry, t⟩ := r
  · exact hget
  · exact hget

theorem verifySignature_congr {s t : Relay} (h : SameAnswers now s t) (did : String)
    (message : Text) (sig : String) :
    (IdentityCache.verifySignature P now did message sig t).1 =
      (IdentityCache.verifySignature P now did message sig s).1 := by
  have hanswer := h.answer did
  unfold IdentityCache.verifySignature
  generalize IdentityCache.get now did t = r at hanswer
  generalize IdentityCache.get now did s = r' at hanswer
  obtain ⟨o, t'⟩ := r
  obtain ⟨o', s'⟩ := r'
  dsimp only at hanswer
  subst hanswer
  cases o with
  | none => rfl
  | some entry => rfl

end Signatures

/-! ### Counting -/

section Counting

variable (P : Platform) (now : Time) (r : PolicyRequest) (admins : Json)

theorem sameAnswers_approvalCounts (did : String) (signature : Json) (s : Relay) :
    SameAnswers now s (approvalCounts P now r admins did signature s).2 := by
  unfold approvalCounts
  split
  · split
    · exact sameAnswers_verifySignature P now did _ _ s
    · exact .refl s
  · exact .refl s

theorem approvalCounts_congr {s t : Relay} (h : SameAnswers now s t) (did : String)
    (signature : Json) : (approvalCounts P now r admins did signature t).1 =
      (approvalCounts P now r admins did signature s).1 := by
  unfold approvalCounts
  rw [h.equivalentMember, h.equivalent]
  split
  · split
    · exact verifySignature_congr P now h did _ _
    · rfl
  · rfl

/-- The DIDs of the approvals that count, each on its own. -/
def validApprovals (s : Relay) : List String :=
  (r.approvals.entries.filter fun e => (approvalCounts P now r admins e.1 e.2 s).1).map Sigma.fst

theorem countApprovals_eq (l : List (Sigma fun _ : String => Json)) (s : Relay) :
    (countApprovals P now r admins l s).1 =
      (l.filter fun e => (approvalCounts P now r admins e.1 e.2 s).1).map Sigma.fst := by
  induction l generalizing s with
  | nil => rfl
  | cons e l ih =>
    have hsame := sameAnswers_approvalCounts P now r admins e.1 e.2 s
    have hrest : (countApprovals P now r admins l (approvalCounts P now r admins e.1 e.2 s).2).1 =
        (l.filter fun e => (approvalCounts P now r admins e.1 e.2 s).1).map Sigma.fst := by
      rw [ih]
      simp only [approvalCounts_congr P now r admins hsame]
    rw [countApprovals, List.filter_cons]
    dsimp only
    rw [hrest]
    split
    · rfl
    · rfl

end Counting

/-! ### Identities -/

theorem equivalent_eq_true {s : Relay} {left right : String} :
    equivalent s left right = true ↔ s.canonicalDid left = s.canonicalDid right := by
  unfold equivalent
  rw [Bool.or_eq_true, beq_iff_eq, beq_iff_eq]
  constructor
  · rintro (rfl | h)
    · rfl
    · exact h
  · exact .inr

theorem equivalent_eq_false {s : Relay} {left right : String} :
    equivalent s left right = false ↔ s.canonicalDid left ≠ s.canonicalDid right := by
  rw [← Bool.not_eq_true, equivalent_eq_true]

/-- The pairs of which both DIDs are in the list. -/
def bothSides (s : Relay) (dids : List String) : List DidElixMigration :=
  s.didElixMigrations.rows.filter fun m => dids.contains m.legacyDid && dids.contains m.v1Did

/-- How many governors are in the list under both of their DIDs. -/
def approvedTwice (s : Relay) (dids : List String) : ℕ := (bothSides s dids).length

/-- The DID is the legacy one of a pair of which both DIDs are in the list. -/
def isSecond (s : Relay) (dids : List String) (did : String) : Bool :=
  (bothSides s dids).any (·.legacyDid == did)

section Identities

variable {s : Relay} (h : s.PairsApart) {dids : List String} (hnodup : dids.Nodup)

theorem mem_bothSides {m : DidElixMigration} : m ∈ bothSides s dids ↔
    m ∈ s.didElixMigrations.rows ∧ m.legacyDid ∈ dids ∧ m.v1Did ∈ dids := by
  simp only [bothSides, List.mem_filter, Bool.and_eq_true, List.contains_iff_mem]

theorem isSecond_eq_true {did : String} : isSecond s dids did = true ↔
    ∃ m ∈ s.didElixMigrations.rows, m.legacyDid = did ∧ did ∈ dids ∧ m.v1Did ∈ dids := by
  simp only [isSecond, List.any_eq_true, mem_bothSides, beq_iff_eq]
  constructor
  · rintro ⟨m, ⟨hm, hl, hv⟩, rfl⟩
    exact ⟨m, hm, rfl, hl, hv⟩
  · rintro ⟨m, hm, rfl, hl, hv⟩
    exact ⟨m, ⟨hm, hl, hv⟩, rfl⟩

include hnodup in
theorem length_second : (dids.filter (isSecond s dids)).length = approvedTwice s dids := by
  have hrows : (s.didElixMigrations.rows.map (·.legacyDid)).Nodup := by
    have hunique := s.didElixMigrations.valid.legacy_did
    rwa [UniqueOn, List.filter_true] at hunique
  have hpairs : ((bothSides s dids).map (·.legacyDid)).Nodup :=
    hrows.sublist (List.filter_sublist.map _)
  have hperm : (dids.filter (isSecond s dids)).Perm ((bothSides s dids).map (·.legacyDid)) := by
    refine (List.perm_ext_iff_of_nodup (hnodup.filter _) hpairs).2 fun did => ?_
    rw [List.mem_filter, isSecond_eq_true, List.mem_map]
    constructor
    · rintro ⟨-, m, hm, rfl, hl, hv⟩
      exact ⟨m, mem_bothSides.2 ⟨hm, hl, hv⟩, rfl⟩
    · rintro ⟨m, hm, rfl⟩
      obtain ⟨hm, hl, hv⟩ := mem_bothSides.1 hm
      exact ⟨hl, m, hm, rfl, hl, hv⟩
  rw [hperm.length_eq, List.length_map, approvedTwice]

/-- The DIDs of the list, of each governor one. -/
def onceEach (s : Relay) (dids : List String) : List String :=
  dids.filter fun did => !isSecond s dids did

include hnodup in
theorem length_onceEach : (onceEach s dids).length + approvedTwice s dids = dids.length := by
  have hsplit := List.length_eq_length_filter_add (l := dids) (isSecond s dids)
  rw [length_second hnodup] at hsplit
  unfold onceEach
  omega

include h

theorem pairwise_onceEach (hnodup : dids.Nodup) :
    ((onceEach s dids).map s.canonicalDid).Nodup := by
  refine (List.nodup_map_iff_inj_on (hnodup.filter _)).2 fun did hd did' hd' heq => ?_
  obtain ⟨hmem, hfirst⟩ := List.mem_filter.1 hd
  obtain ⟨hmem', hfirst'⟩ := List.mem_filter.1 hd'
  rcases h.sides_of_canonicalDid_eq heq with rfl | ⟨m, hm, ⟨rfl, rfl⟩ | ⟨rfl, rfl⟩⟩
  · rfl
  · rw [isSecond_eq_true.2 ⟨m, hm, rfl, hmem, hmem'⟩] at hfirst
    cases hfirst
  · rw [isSecond_eq_true.2 ⟨m, hm, rfl, hmem', hmem⟩] at hfirst'
    cases hfirst'

theorem mem_onceEach {did : String} (hmem : did ∈ dids) :
    s.canonicalDid did ∈ (onceEach s dids).map s.canonicalDid := by
  by_cases hsecond : isSecond s dids did = true
  · obtain ⟨m, hm, rfl, -, hv1⟩ := isSecond_eq_true.1 hsecond
    have hfirst : isSecond s dids m.v1Did = false := by
      rw [← Bool.not_eq_true, isSecond_eq_true]
      rintro ⟨n, hn, hnd, -⟩
      exact h n hn m hm hnd
    refine List.mem_map.2 ⟨m.v1Did, List.mem_filter.2 ⟨hv1, by rw [hfirst]; rfl⟩, ?_⟩
    rw [h.canonicalDid_v1 hm]
    rcases h.canonicalDid_cases m.legacyDid with ⟨n, hn, hnl, hnc⟩ | ⟨-, hno⟩
    · have hnm := s.didElixMigrations.valid.legacy_did.eq hn hm rfl rfl hnl
      rw [hnc, hnm]
    · exact absurd rfl (hno m hm)
  · exact List.mem_map.2
      ⟨did, List.mem_filter.2 ⟨hmem, by rw [Bool.eq_false_iff.2 hsecond]; rfl⟩, rfl⟩

end Identities

/-! ### What passes -/

/-- The governors of the board and their threshold, when the governance is in order and the
author is one of them. -/
def governing (b : ForumHostBoard) (r : PolicyRequest) (s : Deployment) : Option (Json × ℤ) :=
  let creator := boardCreator s.host b.hostedBoardId
  (governanceOf b creator).bind fun g =>
    (validThreshold s.relay g creator).bind fun threshold =>
      if equivalentMember s.relay r.authorDid g.administrators then
        some (g.administrators, threshold)
      else none

/-- The DID approves the change: it is the author, or it has signed the approval. -/
def Approves (P : Platform) (now : Time) (r : PolicyRequest) (s : Relay) (did : String) : Prop :=
  did = r.authorDid ∨ ∃ sig, r.approvals.lookup did = some (.str sig) ∧
    (IdentityCache.verifySignature P now did (approvalPayload r) sig s).1 = true

/-- As many governors approve as the threshold asks for, of pairwise different identities. -/
def ApprovedByThreshold (P : Platform) (now : Time) (b : ForumHostBoard) (r : PolicyRequest)
    (s : Deployment) : Prop :=
  ∃ admins threshold, governing b r s = some (admins, threshold) ∧
    ∃ dids : List String, threshold ≤ dids.length ∧
      dids.Pairwise (fun did did' => equivalent s.relay did did' = false) ∧
      ∀ did ∈ dids, equivalentMember s.relay did admins = true ∧ Approves P now r s.relay did

/-- Where the approvals meet the threshold, they exceed it by as many as governors approve under
both of their DIDs. -/
def EnoughOnce (P : Platform) (now : Time) (b : ForumHostBoard) (r : PolicyRequest)
    (s : Deployment) : Prop :=
  ∀ admins threshold, governing b r s = some (admins, threshold) →
    threshold ≤ 1 + ((validApprovals P now r admins s.relay).length : ℤ) →
    threshold + approvedTwice s.relay (validApprovals P now r admins s.relay) ≤
      1 + ((validApprovals P now r admins s.relay).length : ℤ)

section Passing

variable {P : Platform} {now : Time} {b : ForumHostBoard} {r : PolicyRequest} {s : Deployment}

theorem verifyPolicyApprovals_eq_ok : (verifyPolicyApprovals P now b r s).1 = .ok () ↔
    ∃ admins threshold, governing b r s = some (admins, threshold) ∧
      threshold ≤ 1 + ((validApprovals P now r admins s.relay).length : ℤ) := by
  unfold verifyPolicyApprovals governing
  dsimp only
  cases hg : governanceOf b (boardCreator s.host b.hostedBoardId) with
  | none =>
    constructor
    · intro h
      cases h
    · rintro ⟨_, _, h, _⟩
      cases h
  | some g =>
    have hlen : (validApprovals P now r g.administrators s.relay).length =
        (countApprovals P now r g.administrators r.approvals.entries s.relay).1.length := by
      rw [countApprovals_eq, validApprovals]
    dsimp only
    rw [Option.bind_some]
    cases ht : validThreshold s.relay g (boardCreator s.host b.hostedBoardId) with
    | none =>
      constructor
      · intro h
        cases h
      · rintro ⟨_, _, h, _⟩
        cases h
    | some threshold =>
      dsimp only
      rw [Option.bind_some]
      -- the author counts as the first approval
      by_cases hauthor : equivalentMember s.relay r.authorDid g.administrators = true
      · rw [if_neg (not_not.2 hauthor), if_pos hauthor]
        constructor
        · intro h
          refine ⟨_, _, rfl, ?_⟩
          rw [hlen]
          by_contra hlt
          rw [if_pos (not_le.1 hlt)] at h
          cases h
        · rintro ⟨_, _, heq, hle⟩
          cases heq
          rw [hlen] at hle
          rw [if_neg (not_lt.2 hle)]
      · rw [if_pos hauthor, if_neg hauthor]
        constructor
        · intro h
          cases h
        · rintro ⟨_, _, h, _⟩
          cases h

theorem nodup_validApprovals (admins : Json) :
    (validApprovals P now r admins s.relay).Nodup :=
  List.Nodup.sublist (List.filter_sublist.map _) r.approvals.nodupKeys

/-- An approval that counts is a governor's, not the author's, and verifies. -/
theorem mem_validApprovals {admins : Json} {did : String} :
    did ∈ validApprovals P now r admins s.relay ↔
      equivalentMember s.relay did admins = true ∧ equivalent s.relay did r.authorDid = false ∧
        ∃ sig, r.approvals.lookup did = some (.str sig) ∧
          (IdentityCache.verifySignature P now did (approvalPayload r) sig s.relay).1 = true := by
  unfold validApprovals
  rw [List.mem_map]
  constructor
  · rintro ⟨⟨did, j⟩, hmem, rfl⟩
    obtain ⟨hentry, hcounts⟩ := List.mem_filter.1 hmem
    unfold approvalCounts at hcounts
    split at hcounts
    · next hcond =>
      rw [Bool.and_eq_true, Bool.not_eq_true'] at hcond
      cases j with
      | str sig => exact ⟨hcond.1, hcond.2, sig, AList.mem_lookup_iff.2 hentry, hcounts⟩
      | _ => cases hcounts
    · cases hcounts
  · rintro ⟨hmember, hother, sig, hlook, hverified⟩
    refine ⟨⟨did, .str sig⟩, List.mem_filter.2 ⟨AList.mem_lookup_iff.1 hlook, ?_⟩, rfl⟩
    unfold approvalCounts
    dsimp only
    rw [if_pos (by rw [hmember, hother]; rfl)]
    exact hverified

/-- The author, and of each other governor who approves one DID. -/
theorem approved_onceEach (h : s.relay.PairsApart) {admins : Json} {threshold : ℤ}
    (hg : governing b r s = some (admins, threshold))
    (hle : threshold + approvedTwice s.relay (validApprovals P now r admins s.relay) ≤
      1 + ((validApprovals P now r admins s.relay).length : ℤ)) :
    ApprovedByThreshold P now b r s := by
  have hnodup := @nodup_validApprovals P now r s admins
  have hlen := length_onceEach (s := s.relay) hnodup
  refine ⟨admins, threshold, hg,
    r.authorDid :: onceEach s.relay (validApprovals P now r admins s.relay), ?_, ?_, ?_⟩
  · rw [List.length_cons]
    omega
  · refine List.pairwise_cons.2 ⟨fun did hmem => ?_, ?_⟩
    · have hother := (mem_validApprovals.1 (List.mem_filter.1 hmem).1).2.1
      rw [equivalent_eq_false] at hother ⊢
      exact hother.symm
    · refine (List.pairwise_map.1 (pairwise_onceEach h hnodup)).imp fun hne => ?_
      exact equivalent_eq_false.2 hne
  · intro did hmem
    rcases List.mem_cons.1 hmem with rfl | hmem
    · refine ⟨?_, .inl rfl⟩
      unfold governing at hg
      obtain ⟨g, -, hg⟩ := Option.bind_eq_some_iff.1 hg
      obtain ⟨_, -, hg⟩ := Option.bind_eq_some_iff.1 hg
      split at hg
      · next hauthor =>
        cases hg
        exact hauthor
      · cases hg
    · obtain ⟨hmember, -, happroves⟩ := mem_validApprovals.1 (List.mem_filter.1 hmem).1
      exact ⟨hmember, .inr happroves⟩

/-- Governors who approve, of pairwise different identities, are no more than the author and the
governors whose approvals count. -/
theorem length_le_of_approves (h : s.relay.PairsApart) {admins : Json} {dids : List String}
    (hpair : dids.Pairwise fun did did' => equivalent s.relay did did' = false)
    (happroves : ∀ did ∈ dids, equivalentMember s.relay did admins = true ∧
      Approves P now r s.relay did) :
    dids.length ≤ 1 + (onceEach s.relay (validApprovals P now r admins s.relay)).length := by
  have hnodup : (dids.map s.relay.canonicalDid).Nodup :=
    List.pairwise_map.2 (hpair.imp fun hne => equivalent_eq_false.1 hne)
  have hsubset : dids.map s.relay.canonicalDid ⊆ s.relay.canonicalDid r.authorDid ::
      (onceEach s.relay (validApprovals P now r admins s.relay)).map s.relay.canonicalDid := by
    intro c hc
    obtain ⟨did, hdid, rfl⟩ := List.mem_map.1 hc
    obtain ⟨hmember, happ⟩ := happroves did hdid
    by_cases hsame : s.relay.canonicalDid did = s.relay.canonicalDid r.authorDid
    · rw [hsame]
      exact List.mem_cons_self
    · rcases happ with rfl | happ
      · exact absurd rfl hsame
      · exact List.mem_cons_of_mem _ (mem_onceEach h (mem_validApprovals.2
          ⟨hmember, equivalent_eq_false.2 hsame, happ⟩))
  have hle := (List.subperm_of_subset hnodup hsubset).length_le
  rw [List.length_map, List.length_cons, List.length_map] at hle
  omega

/-- **What passes the check is approved by as many governors as the threshold asks for exactly
when the threshold is also met without the second approvals of the same governors.** -/
theorem policy_approved_iff (h : s.relay.PairsApart) :
    ((verifyPolicyApprovals P now b r s).1 = .ok () → ApprovedByThreshold P now b r s) ↔
      EnoughOnce P now b r s := by
  constructor
  · intro happroved admins threshold hg hle
    obtain ⟨_, _, hg', dids, hlen, hpair, happroves⟩ :=
      happroved (verifyPolicyApprovals_eq_ok.2 ⟨admins, threshold, hg, hle⟩)
    obtain ⟨rfl, rfl⟩ := Prod.mk.inj (Option.some.inj (hg.symm.trans hg'))
    have hbound := length_le_of_approves h hpair happroves
    have hsplit := length_onceEach (s := s.relay)
      (@nodup_validApprovals P now r s admins)
    omega
  · intro henough hok
    obtain ⟨admins, threshold, hg, hle⟩ := verifyPolicyApprovals_eq_ok.1 hok
    exact approved_onceEach h hg (henough admins threshold hg hle)

end Passing

/-! ### Changes of policies -/

theorem transaction_eq_ok {α : Type} {x : Checked Deployment PolicyChangeError α} {s t : Deployment}
    {a : α} : transaction x s = (.ok a, t) ↔ x s = (.ok a, t) := by
  unfold transaction
  generalize x s = result
  obtain ⟨e | a', u⟩ := result
  · constructor
    · intro h
      cases h
    · intro h
      cases h
  · exact Iff.rfl

/-- The intent of a change is not one that creates a board. -/
theorem boardCreator_insertAcceptedIntent {P : Platform} {r : PolicyRequest} {s t : Deployment}
    (h : insertAcceptedIntent P r s = (.ok (), t)) :
    t.relay = s.relay ∧ t.host.policyVersions = s.host.policyVersions ∧
      ∀ boardId, boardCreator t.host boardId = boardCreator s.host boardId := by
  unfold insertAcceptedIntent at h
  split at h
  · obtain rfl := (Prod.mk.inj h).2
    refine ⟨rfl, rfl, fun boardId => ?_⟩
    unfold boardCreator
    dsimp only
    rw [List.find?_append, List.find?_cons_of_neg, List.find?_nil, Option.or_none]
    rw [show ("update_board_policy" == "create_board") = false from by decide, Bool.false_and,
      Bool.false_and]
    exact Bool.false_ne_true
  · cases h

/-- **A policy is changed only after the approvals of the request have passed the check.** -/
theorem verified_of_updateBoardPolicy {P : Platform} {C : HostConfig} {now : Time}
    {i : PolicyIntent} {s t : Deployment} {c : ForumHostBoard}
    (h : updateBoardPolicy P C now i s = (.ok c, t))
    (hchanged : t.host.policyVersions ≠ s.host.policyVersions) :
    ∃ r b, normalizeBoardPolicyAttrs C i = .ok r ∧ s.host.boards.get r.boardId = some b ∧
      (verifyPolicyApprovals P now b r s).1 = .ok () := by
  unfold updateBoardPolicy at h
  obtain ⟨r, s₁, hlift, hrest⟩ := Checked.bind_eq_ok.1 h
  obtain ⟨hr, rfl⟩ := Checked.lift_eq_ok.1 hlift
  obtain ⟨b, s₂, hfetch, hchange⟩ := Checked.bind_eq_ok.1 (transaction_eq_ok.1 hrest)
  obtain ⟨hb, rfl⟩ := Checked.look_eq_ok.1 hfetch
  have hboard : s₂.host.boards.get r.boardId = some b := by
    split at hb
    · cases hb
    · next b' hget =>
      split at hb
      · rw [hget, Except.ok.inj hb]
      · cases hb
  refine ⟨r, b, hr, hboard, ?_⟩
  split at hchange
  · exact absurd (congrArg (fun u => u.host.policyVersions) (Prod.mk.inj hchange).2).symm hchanged
  unfold changePolicy at hchange
  obtain ⟨_, s₃, hinsert, hchange₁⟩ := Checked.bind_eq_ok.1 hchange
  obtain ⟨_, _, hpending, hchange₂⟩ := Checked.bind_eq_ok.1 hchange₁
  obtain ⟨-, rfl⟩ := Checked.look_eq_ok.1 hpending
  obtain ⟨_, _, hhash, hchange₃⟩ := Checked.bind_eq_ok.1 hchange₂
  obtain ⟨-, rfl⟩ := Checked.lift_eq_ok.1 hhash
  obtain ⟨_, s₄, hverified, -⟩ := Checked.bind_eq_ok.1 hchange₃
  obtain ⟨hrelay, -, hcreator⟩ := boardCreator_insertAcceptedIntent hinsert
  obtain ⟨admins, threshold, hg, hle⟩ := verifyPolicyApprovals_eq_ok.1 (by rw [hverified])
  refine verifyPolicyApprovals_eq_ok.2 ⟨admins, threshold, ?_, hrelay ▸ hle⟩
  rw [governing, hcreator, hrelay] at hg
  exact hg

/-- **A change that is made is approved by as many governors as the threshold asks for exactly
when the threshold is also met without the second approvals of the same governors.**  The code
counts approvals, not governors: one who approves under two DIDs of a pair is counted twice. -/
theorem policy_change_approved {P : Platform} {C : HostConfig} {now : Time} {i : PolicyIntent}
    {s t : Deployment} {c : ForumHostBoard} (hpairs : s.relay.PairsApart)
    (h : updateBoardPolicy P C now i s = (.ok c, t))
    (hchanged : t.host.policyVersions ≠ s.host.policyVersions) :
    ∃ r b, normalizeBoardPolicyAttrs C i = .ok r ∧ s.host.boards.get r.boardId = some b ∧
      (ApprovedByThreshold P now b r s ↔ EnoughOnce P now b r s) := by
  obtain ⟨r, b, hr, hb, hverified⟩ := verified_of_updateBoardPolicy h hchanged
  refine ⟨r, b, hr, hb, ?_⟩
  constructor
  · intro happroved
    exact (policy_approved_iff hpairs).1 fun _ => happroved
  · intro henough
    exact (policy_approved_iff hpairs).2 henough hverified

/-! ### Three governors, of whom one has migrated -/

def toyGovernor (did : String) (n : UInt8) : VerifiedDid where
  did := did
  publicKeyHex := toyKeyHex n
  signingAlgorithm := "p256-sha256"
  keyVersion := 1
  nullifier := did
  expiresAt := 1

/-- The DID that Bob has migrated to. -/
def toyBobV1 : String := "did:elix:zbbbbbbbbbbbbbbbbbbbbbbbbbbbbbbbbbbbbbbbbbbbbbbbbbbbbb"

/-- Bob's key under the new DID is cached. -/
def toyRelay : Relay := { Relay.empty with
  verifiedDids := ⟨[toyGovernor "did:elix:bobbobbobb" 2, toyGovernor "did:plc:carol" 3],
    by decide⟩
  didElixMigrations := ⟨[⟨"did:elix:bobbobbobb", toyBobV1, "bob", [], "", ""⟩], by decide⟩
  verifiedDidCache := Ets.insert (fun _ => none) toyBobV1
    { publicKeyHex := toyKeyHex 4, signingAlgorithm := "p256-sha256", keyVersion := 1,
      nullifier := none, expiresAt := 1 } }

/-- A board of Alice, Bob and Carol that asks for all three of them. -/
def toyGoverned : ForumHostBoard := { Moderation.toyBoard 1 "alpha" with
  moderationPolicy := .obj [("governance", .obj [("administrators",
    .arr [.str "did:plc:alice", .str "did:elix:bobbobbobb", .str "did:plc:carol"]),
    ("threshold", .int 3)])] }

def toyDeployment : Deployment where
  relay := toyRelay
  host := { ForumHost.empty with
    boards := ⟨[toyGoverned], by decide⟩
    acceptedIntents := [⟨"did:plc:alice", "create_board", "forum_host_board", "alpha", "i-1", []⟩] }
  ops := []

/-- Alice asks for the policy that the board has. -/
def toyRequest (approvals : Assoc String Json) : PolicyRequest where
  intentId := "i-2"
  authorDid := "did:plc:alice"
  boardId := "alpha"
  previousPolicyHash := String.ofList (boardPolicyHash .toy toyGoverned)
  accessPolicy := BoardAccessPolicy.default
  contentVisibility := .isPublic
  federationPolicy := .obj [("mode", .str "enabled")]
  effectiveAt := 0
  effectiveText := "1970-01-01T00:00:00Z".toList
  approvals := approvals

def toyIntent (approvals : Assoc String Json) : PolicyIntent where
  intentId := "i-2"
  authorDid := "did:plc:alice"
  boardId := "alpha"
  previousPolicyHash := String.ofList (boardPolicyHash .toy toyGoverned)
  newPolicy := (toyRequest ∅).policy
  effectiveAt := "1970-01-01T00:00:00Z"
  approvals := approvals

theorem normalize_toyIntent (approvals : Assoc String Json) :
    normalizeBoardPolicyAttrs {} (toyIntent approvals) = .ok (toyRequest approvals) := by
  rfl

/-- Bob and Carol approve. -/
def toyApprovals : Assoc String Json :=
  ((∅ : Assoc String Json).insert "did:elix:bobbobbobb"
    (.str (toySign 2 (approvalPayload (toyRequest ∅))))).insert "did:plc:carol"
    (.str (toySign 3 (approvalPayload (toyRequest ∅))))

/-- Bob approves under both of his DIDs. -/
def toyTwice : Assoc String Json :=
  ((∅ : Assoc String Json).insert "did:elix:bobbobbobb"
    (.str (toySign 2 (approvalPayload (toyRequest ∅))))).insert toyBobV1
    (.str (toySign 4 (approvalPayload (toyRequest ∅))))

theorem pairsApart_toyRelay : toyRelay.PairsApart := by
  intro m hm n hn
  rw [List.mem_singleton.1 hm, List.mem_singleton.1 hn]
  decide

/-- A run of the update that succeeds and records a version. -/
theorem exists_change {i : PolicyIntent}
    (h : (updateBoardPolicy .toy {} 0 i toyDeployment).1.isOk = true ∧
      (updateBoardPolicy .toy {} 0 i toyDeployment).2.host.policyVersions.length = 1) :
    ∃ c t, updateBoardPolicy .toy {} 0 i toyDeployment = (.ok c, t) ∧
      t.host.policyVersions ≠ toyDeployment.host.policyVersions := by
  obtain ⟨hok, hlen⟩ := h
  generalize updateBoardPolicy .toy {} 0 i toyDeployment = result at hok hlen
  obtain ⟨e | c, t⟩ := result
  · cases hok
  · refine ⟨c, t, rfl, fun h => ?_⟩
    have hzero : toyDeployment.host.policyVersions.length = 0 := rfl
    rw [← h, hlen] at hzero
    cases hzero

theorem policy_change_approved_toy : ∃ c t,
    updateBoardPolicy .toy {} 0 (toyIntent toyApprovals) toyDeployment = (.ok c, t) ∧
      ∃ r b, normalizeBoardPolicyAttrs {} (toyIntent toyApprovals) = .ok r ∧
        toyDeployment.host.boards.get r.boardId = some b ∧
        (ApprovedByThreshold .toy 0 b r toyDeployment ↔ EnoughOnce .toy 0 b r toyDeployment) := by
  obtain ⟨c, t, h, hchanged⟩ := exists_change (i := toyIntent toyApprovals) (by decide +kernel)
  exact ⟨c, t, h, policy_change_approved pairsApart_toyRelay h hchanged⟩

/-- **The policy of a board that asks for three governors is changed by two**, of whom one
approves under both of his DIDs. -/
theorem policy_approved_twice : ∃ c t,
    updateBoardPolicy .toy {} 0 (toyIntent toyTwice) toyDeployment = (.ok c, t) ∧
      t.host.policyVersions ≠ toyDeployment.host.policyVersions ∧
      ∃ r b, normalizeBoardPolicyAttrs {} (toyIntent toyTwice) = .ok r ∧
        toyDeployment.host.boards.get r.boardId = some b ∧
        ¬ ApprovedByThreshold .toy 0 b r toyDeployment := by
  have hfacts : ((updateBoardPolicy .toy {} 0 (toyIntent toyTwice) toyDeployment).1.isOk = true ∧
      (updateBoardPolicy .toy {} 0 (toyIntent toyTwice) toyDeployment).2.host.policyVersions.length
        = 1) ∧
      (governing toyGoverned (toyRequest toyTwice) toyDeployment).map (fun g =>
        (g.2, (validApprovals .toy 0 (toyRequest toyTwice) g.1 toyRelay).length,
          approvedTwice toyRelay (validApprovals .toy 0 (toyRequest toyTwice) g.1 toyRelay)))
            = some (3, 2, 1) := by
    decide +kernel
  obtain ⟨c, t, h, hchanged⟩ := exists_change hfacts.1
  refine ⟨c, t, h, hchanged, toyRequest toyTwice, toyGoverned, normalize_toyIntent _, rfl,
    fun happroved => ?_⟩
  -- the threshold is three, and two approvals count, both of one governor
  obtain ⟨⟨admins, threshold⟩, hg, hcounts⟩ := Option.map_eq_some_iff.1 hfacts.2
  obtain ⟨rfl, hcounts⟩ := Prod.mk.inj hcounts
  obtain ⟨hlen, htwice⟩ := Prod.mk.inj hcounts
  have henough := (policy_approved_iff pairsApart_toyRelay).1 (fun _ => happroved) admins 3 hg
  change 3 ≤ 1 + ((validApprovals .toy 0 (toyRequest toyTwice) admins toyRelay).length : ℤ) →
    3 + (approvedTwice toyRelay (validApprovals .toy 0 (toyRequest toyTwice) admins toyRelay) : ℤ)
      ≤ 1 + ((validApprovals .toy 0 (toyRequest toyTwice) admins toyRelay).length : ℤ) at henough
  rw [hlen, htwice] at henough
  exact absurd (henough (by decide)) (by decide)

end BoardGovernance

end Ansible
