import Ansible.Issuer.StoreWrites
import Ansible.Lib.Run

/-!
# Both stores answer alike

Lists are compared without their order: the store in memory lists a map in the order
in which it happens to walk it.

## Main definitions

* `StoreOp.ran` — the store after an operation, the step of a run.

## Main results

* `stores_interchangeable` — **in a run of operations that conform, both stores answer
  alike and hold the same records**.
-/

namespace Ansible.Hosted

open PostgresStore (areTexts)

/-! ### Lists with one match -/

section Lists

variable {α : Type} {l : List α} {f : α → Bool} {x : α}

theorem find?_of_unique (hx : x ∈ l) (hf : f x) (h : ∀ y ∈ l, f y → y = x) :
    l.find? f = some x := by
  cases hfind : l.find? f with
  | none => exact absurd hf (List.find?_eq_none.1 hfind x hx)
  | some y => rw [h y (List.mem_of_find?_eq_some hfind) (List.find?_some hfind)]

end Lists

namespace PostgresStore

theorem newest_eq_none {l : List CredentialTemplate} (h : newest l = none) : l = [] := by
  cases l with
  | nil => rfl
  | cons t l =>
    have hfound : (newest (t :: l)).isSome := by
      refine List.foldlRecOn (motive := fun best => best.isSome) l _ (b := some t) rfl ?_
      intro best hbest x _
      cases best with
      | none => rfl
      | some b => dsimp only; split <;> rfl
    rw [h] at hfound
    cases hfound

end PostgresStore

section Reads

variable {m : MemoryStore} {p : PostgresStore} (h : Alike m p)
include h

theorem Alike.reads {α : Type} {f : α → Answer} {r r' : Except StoreError α} (hr : r = r') :
    Agreed (read f m r) (read f p r') := by
  subst hr
  exact ⟨rfl, h⟩

theorem Alike.readsPerm {α : Type} {f : Multiset α → Answer} {l l' : List α} (hl : l.Perm l') :
    Agreed (read (fun l => f l) m (.ok l)) (read (fun l => f l) p (.ok l')) :=
  ⟨congrArg (fun x => Except.ok (f x)) (Multiset.coe_eq_coe.2 hl), h⟩

variable {tid : String}

variable (S : Server)

theorem Alike.tenant (hc : Conforms S m.records (.tenant tid)) :
    Agreed (read .tenant m (m.tenant tid)) (read .tenant p (p.tenant tid)) := by
  have htext : isText tid := hc
  refine h.reads ?_
  -- both look up one row
  have hp : p.tenant tid = _ := if_neg (not_not.2 htext)
  have hrow := h.tenants tid
  rw [hp]
  unfold MemoryStore.tenant
  generalize p.tenants.lookup tid = row at hrow
  subst hrow
  cases m.tenants tid with
  | none => rfl
  | some t => rfl

theorem Alike.administrators (hc : Conforms S m.records (.administrators tid)) :
    Agreed (read (fun l => .administrators l) m (m.administrators tid))
      (read (fun l => .administrators l) p (p.administrators tid)) := by
  obtain ⟨htext, ht⟩ := hc
  refine h.reads ?_
  rw [MemoryStore.administrators, PostgresStore.administrators, if_neg (not_not.2 htext),
    if_pos (show (m.tenants tid).isSome from ht), h.admins]

theorem Alike.signingKey {kid : String} (hc : Conforms S m.records (.signingKey tid kid)) :
    Agreed (read .signingKey m (m.signingKey tid kid))
      (read .signingKey p (p.signingKey tid kid)) := by
  have htexts : areTexts [tid, kid] := hc
  have hkey : (m.signingKeys tid).lookup kid =
      (p.signingKeys.lookup kid).filter fun k => k.tenantID == tid :=
    congrFun (congrFun (congrArg Records.signingKeys h.records) tid) kid
  refine h.reads ?_
  rw [MemoryStore.signingKey, PostgresStore.signingKey, if_neg (not_not.2 htexts), hkey]
  cases p.signingKeys.lookup kid with
  | none => rfl
  | some k =>
    rw [Option.filter_some]
    by_cases hk : k.tenantID = tid
    · rw [if_pos (beq_iff_eq.2 hk)]
      exact (if_pos hk).symm
    · rw [if_neg (fun hif => hk (beq_iff_eq.1 hif))]
      exact (if_neg hk).symm

theorem Alike.credentialRecords (hc : Conforms S m.records (.credentialRecords tid)) :
    Agreed (read (fun l => .credentialRecords l) m (m.credentialRecords tid))
      (read (fun l => .credentialRecords l) p (p.credentialRecords tid)) := by
  obtain ⟨htext, ht⟩ := hc
  rw [MemoryStore.credentialRecords, PostgresStore.credentialRecords, if_neg (not_not.2 htext),
    if_pos (show (m.tenants tid).isSome from ht)]
  refine h.readsPerm (.trans ?_ (List.mergeSort_perm _ _).symm)
  rw [← Assoc.values_filterValues]
  refine Assoc.perm_values fun i => ?_
  rw [Assoc.lookup_filterValues, h.credential]

/-! ### Templates -/

theorem Alike.mem_memory {t : CredentialTemplate} :
    t ∈ (m.templates tid).values ↔ m.records.templates tid t.id t.version = some t := by
  constructor
  · intro ht
    obtain ⟨key, hkey⟩ := Assoc.mem_values.1 ht
    have := hkey
    rw [h.keyed tid key t hkey] at this
    exact this
  · intro ht
    exact Assoc.mem_values.2 ⟨_, ht⟩

theorem Alike.mem_table {t : CredentialTemplate} :
    t ∈ (p.templates tid).values ↔ m.records.templates tid t.id t.version = some t := by
  rw [h.records]
  constructor
  · intro ht
    obtain ⟨⟨i, v⟩, hrow⟩ := Assoc.mem_values.1 ht
    have hrow : p.records.templates tid i v = some t := hrow
    obtain ⟨hi, hv⟩ := h.kept.templates tid i v t (h.records ▸ hrow)
    rw [hi, hv]
    exact hrow
  · intro ht
    exact Assoc.mem_values.2 ⟨_, ht⟩

theorem Alike.perm_templates (tid : String) :
    (m.templates tid).values.Perm (p.templates tid).values := by
  refine (List.perm_ext_iff_of_nodup ?_ ?_).2 fun t => h.mem_memory.trans h.mem_table.symm
  · refine Assoc.nodup_values (fun t => versionKey t.id t.version) fun e he => ?_
    exact (h.keyed tid e.1 e.2 (AList.mem_lookup_iff.2 he)).symm
  · refine Assoc.nodup_values (fun t => (t.id, t.version)) fun e he => ?_
    have hrow : p.records.templates tid e.1.1 e.1.2 = some e.2 := AList.mem_lookup_iff.2 he
    obtain ⟨hi, hv⟩ := h.kept.templates _ _ _ _ (h.records ▸ hrow)
    exact Prod.ext hi hv

theorem Alike.activeCredentialTemplate {id : String}
    (hc : Conforms S m.records (.activeCredentialTemplate tid id)) :
    Agreed (read .template m (m.activeCredentialTemplate tid id))
      (read .template p (p.activeCredentialTemplate tid id)) := by
  have htexts : areTexts [tid, id] := hc
  refine h.reads ?_
  rw [MemoryStore.activeCredentialTemplate, PostgresStore.activeCredentialTemplate,
    if_neg (not_not.2 htexts)]
  have hperm := (h.perm_templates tid).filter fun t => t.id == id && t.active
  cases hnewest : PostgresStore.newest
      ((p.templates tid).values.filter fun t => t.id == id && t.active) with
  | none =>
    rw [PostgresStore.newest_eq_none hnewest] at hperm
    have hnone : (m.templates tid).values.find? (fun t => t.id == id && t.active) = none := by
      rw [List.find?_eq_none]
      intro t ht hact
      have hmem : t ∈ ([] : List CredentialTemplate) :=
        hperm.mem_iff.1 (List.mem_filter.2 ⟨ht, hact⟩)
      cases hmem
    rw [hnone]
  | some t =>
    have hmem := hperm.mem_iff.2 (PostgresStore.mem_of_newest hnewest)
    obtain ⟨ht, hact⟩ := List.mem_filter.1 hmem
    have hfind : (m.templates tid).values.find? (fun t => t.id == id && t.active) = some t := by
      refine find?_of_unique ht hact fun t' ht' hact' => ?_
      -- there is one active version of a template
      simp only [Bool.and_eq_true, beq_iff_eq] at hact hact'
      have hrow := h.mem_memory.1 ht
      have hrow' := h.mem_memory.1 ht'
      rw [hact.1] at hrow
      rw [hact'.1] at hrow'
      rw [h.kept.oneTemplate tid id _ _ t' t hrow' hrow hact'.2 hact.2, hrow] at hrow'
      exact (Option.some.inj hrow').symm
    rw [hfind]

theorem Alike.activeCredentialTemplates (hc : Conforms S m.records (.activeCredentialTemplates tid))
    :
    Agreed (read (fun l => .templates l) m (m.activeCredentialTemplates tid))
      (read (fun l => .templates l) p (p.activeCredentialTemplates tid)) := by
  obtain ⟨htext, ht⟩ := hc
  rw [MemoryStore.activeCredentialTemplates, PostgresStore.activeCredentialTemplates,
    if_neg (not_not.2 htext), if_pos (show (m.tenants tid).isSome from ht)]
  refine h.readsPerm ((List.mergeSort_perm _ _).trans (.trans ?_ (List.mergeSort_perm _ _).symm))
  exact (h.perm_templates tid).filter _

/-! ### Requests -/

theorem Alike.issuanceRequest {id : String} (hc : Conforms S m.records (.issuanceRequest tid id)) :
    Agreed (read .request m (m.issuanceRequest tid id))
      (read .request p (p.issuanceRequest tid id)) := by
  have htexts : areTexts [tid, id] := hc
  refine h.reads ?_
  rw [MemoryStore.issuanceRequest, PostgresStore.issuanceRequest, if_neg (not_not.2 htexts),
    h.request]
  cases p.requestRow tid id <;> rfl

theorem Alike.approved (tid rid : String) : m.approved tid rid = p.approved tid rid := by
  have hdecisions : decisionsOf (m.approvals tid rid) = decisionsOf (p.approvals tid rid) :=
    congrFun (congrFun (congrArg Records.decisions h.records) tid) rid
  exact approving_eq hdecisions

theorem Alike.issuanceRequests {state : String}
    (hc : Conforms S m.records (.issuanceRequests tid state)) :
    Agreed (read (fun l => .requests l) m (m.issuanceRequests tid state))
      (read (fun l => .requests l) p (p.issuanceRequests tid state)) := by
  obtain ⟨⟨htext, ht⟩, hstate⟩ := hc
  have htexts : areTexts [tid, state] := by simp [areTexts, htext, hstate]
  rw [MemoryStore.issuanceRequests, PostgresStore.issuanceRequests, if_neg (not_not.2 htexts),
    if_pos (show (m.tenants tid).isSome from ht)]
  refine h.readsPerm ((List.mergeSort_perm _ _).trans (.trans ?_ (List.mergeSort_perm _ _).symm))
  have hrows : (m.requests tid).values.Perm ((p.requests.values.filter fun r =>
      r.tenantID == tid).map PostgresStore.scanIssuanceRequest) := by
    rw [← Assoc.values_filterValues, ← Assoc.values_mapValues]
    refine Assoc.perm_values fun i => ?_
    rw [Assoc.lookup_mapValues, Assoc.lookup_filterValues]
    exact h.request tid i
  -- no approval is counted in the records, so both counts are those of the decisions
  have hcount : ∀ r ∈ (m.requests tid).values.filter fun r => state == "" || r.state == state,
      { r with approvalCount := r.approvalCount + m.approved tid r.id } =
        { r with approvalCount := (p.approved tid r.id : ℤ) } := by
    intro r hr
    obtain ⟨i, hi⟩ := Assoc.mem_values.1 (List.mem_of_mem_filter hr)
    rw [(h.kept.requests tid i r hi).2.1, h.approved, zero_add]
  rw [List.map_congr_left hcount]
  have hsame := (hrows.filter fun r => state == "" || r.state == state).map
    fun r => { r with approvalCount := (p.approved tid r.id : ℤ) }
  rw [List.filter_map, List.map_map, List.filter_filter] at hsame
  refine hsame.trans (.of_eq ?_)
  simp only [Bool.and_comm]
  rfl

/-! ### Delegations and audit -/

theorem Alike.activeDelegation {now : Time} (hc : Conforms S m.records (.activeDelegation tid now))
    :
    Agreed (read .delegation m (m.activeDelegation tid now))
      (read .delegation p (p.activeDelegation tid now)) := by
  obtain ⟨hdated, htext⟩ := hc
  obtain ⟨now', hnow⟩ := Option.isSome_iff_exists.1 hdated
  refine h.reads ?_
  rw [MemoryStore.activeDelegation, PostgresStore.activeDelegation, hnow]
  dsimp only
  rw [if_neg (not_not.2 htext)]
  -- a row of the tenant is in force for both, or for none
  have hforce : ∀ i d, p.delegationRow tid i = some d →
      (d.tenantID == tid && d.state == "active" && decide (d.notBefore ≤ now') &&
        decide (now' < d.expiresAt)) = MemoryStore.inForce d now := by
    intro i d hd
    rw [← h.delegation] at hd
    obtain ⟨-, hnot, hexp⟩ := h.kept.delegations tid i d hd
    rw [h.delegation] at hd
    have hfrom := le_floor_iff (a := now) hnot
    have huntil := floor_lt_iff (a := now) hexp
    have htid := (PostgresStore.of_delegationRow hd).2
    have hopen : decide (d.notBefore ≤ now) = !decide (now < d.notBefore) := by
      rw [← decide_not]
      exact decide_eq_decide.2 Int.not_lt.symm
    rw [timestamptz_eq_some hnow, MemoryStore.inForce, beq_iff_eq.2 htid, Bool.true_and,
      decide_eq_decide.2 hfrom, decide_eq_decide.2 huntil, hopen]
  by_cases hex : ∃ i d, (m.delegations tid).lookup i = some d ∧ MemoryStore.inForce d now
  · obtain ⟨i, d, hd, hin⟩ := hex
    have hone : ∀ i' d', (m.delegations tid).lookup i' = some d' → MemoryStore.inForce d' now →
        d' = d := by
      intro i' d' hd' hin'
      simp only [MemoryStore.inForce, Bool.and_eq_true, beq_iff_eq] at hin hin'
      rw [h.kept.oneDelegation tid i' i d' d hd' hd hin'.1.1 hin.1.1, hd] at hd'
      exact (Option.some.inj hd').symm
    have hsome := (h.kept.delegations tid i d hd).1
    have hrow := (h.delegation tid i).symm.trans hd
    rw [if_neg (isNone_of_tenant hsome),
      find?_of_unique (x := d) (Assoc.mem_values.2 ⟨i, hd⟩) hin fun d' hd' hin' => by
        obtain ⟨i', hi'⟩ := Assoc.mem_values.1 hd'
        exact hone i' d' hi' hin',
      find?_of_unique (x := d) (Assoc.mem_values.2 ⟨i, (PostgresStore.of_delegationRow hrow).1⟩)
        ((hforce i d hrow).trans hin) fun d' hd' hin' => by
          obtain ⟨i', hi'⟩ := Assoc.mem_values.1 hd'
          have htid : d'.tenantID = tid := by
            simp only [Bool.and_eq_true, beq_iff_eq] at hin'
            exact hin'.1.1.1
          have hrow' : p.delegationRow tid i' = some d' :=
            Option.filter_eq_some_iff.2 ⟨hi', beq_iff_eq.2 htid⟩
          exact hone i' d' ((h.delegation tid i').trans hrow')
            ((hforce i' d' hrow').symm.trans hin')]
  · have hmemory : (m.delegations tid).values.find? (MemoryStore.inForce · now) = none := by
      rw [List.find?_eq_none]
      intro d hd hin
      obtain ⟨i, hi⟩ := Assoc.mem_values.1 hd
      exact hex ⟨i, d, hi, hin⟩
    have htable : p.delegations.values.find? (fun d => d.tenantID == tid && d.state == "active" &&
        decide (d.notBefore ≤ now') && decide (now' < d.expiresAt)) = none := by
      rw [List.find?_eq_none]
      intro d hd hin
      obtain ⟨i, hi⟩ := Assoc.mem_values.1 hd
      have htid : d.tenantID = tid := by
        simp only [Bool.and_eq_true, beq_iff_eq] at hin
        exact hin.1.1.1
      have hrow : p.delegationRow tid i = some d :=
        Option.filter_eq_some_iff.2 ⟨hi, beq_iff_eq.2 htid⟩
      exact hex ⟨i, d, (h.delegation tid i).trans hrow, (hforce i d hrow).symm.trans hin⟩
    rw [hmemory, htable]
    split <;> rfl

theorem Alike.audit (hc : Conforms S m.records (.audit tid)) :
    Agreed (read (fun l => .audit l) m (m.audit tid))
      (read (fun l => .audit l) p (p.audit tid)) := by
  obtain ⟨htext, ht⟩ := hc
  rw [MemoryStore.audit, PostgresStore.audit, if_neg (not_not.2 htext),
    if_pos (show (m.tenants tid).isSome from ht), h.auditLog]
  exact h.readsPerm (List.mergeSort_perm _ _).symm

end Reads

/-! ### Runs -/

/-- **Stores that are alike answer an operation that conforms alike**, and stay alike. -/
theorem Alike.run (S : Server) {m : MemoryStore} {p : PostgresStore} (h : Alike m p)
    {op : StoreOp} (hc : Conforms S m.records op) :
    Agreed (op.run MemoryStore.ops m) (op.run (PostgresStore.ops S) p) := by
  cases op with
  | bootstrapTenant t owner => exact h.bootstrapTenant S hc
  | createTenant t => exact h.createTenant S hc
  | tenant tid => exact h.tenant S hc
  | putAdministrator tid a => exact h.putAdministrator S hc
  | administrators tid => exact h.administrators S hc
  | putSigningKey tid k => exact h.putSigningKey S hc
  | signingKey tid kid => exact h.signingKey S hc
  | reserveStatusIndex tid draws => exact h.reserveStatusIndex S hc
  | putCredentialRecord tid r => exact h.putCredentialRecord S hc
  | setCredentialStatus tid cid status => exact h.setCredentialStatus S hc
  | credentialRecords tid => exact h.credentialRecords S hc
  | putCredentialTemplate tid t order => exact h.putCredentialTemplate S hc
  | activeCredentialTemplate tid id => exact h.activeCredentialTemplate S hc
  | activeCredentialTemplates tid => exact h.activeCredentialTemplates S hc
  | putIssuanceRequest tid q => exact h.putIssuanceRequest S hc
  | issuanceRequest tid id => exact h.issuanceRequest S hc
  | issuanceRequests tid state => exact h.issuanceRequests S hc
  | decideIssuanceRequest tid a threshold => exact h.decideIssuanceRequest S hc
  | consumeApprovedIssuanceRequest tid id now => exact h.consumeApprovedIssuanceRequest S hc
  | proposeDelegation tid d => exact h.proposeDelegation S hc
  | approveDelegation tid id did signature => exact h.approveDelegation S hc
  | activateDelegation tid id now => exact h.activateDelegation S hc
  | revokeDelegation tid id now => exact h.revokeDelegation S hc
  | activeDelegation tid now => exact h.activeDelegation S hc
  | appendAudit tid e => exact h.appendAudit S hc
  | audit tid => exact h.audit S hc

theorem alike_empty : Alike {} {} := by
  refine ⟨rfl, ?_, fun _ _ t ht => (Option.some_ne_none t ht.symm).elim⟩
  constructor
  case count => exact fun _ t ht => (Option.some_ne_none t ht.symm).elim
  case admins => exact fun _ _ => rfl
  case templates => exact fun _ _ _ t ht => (Option.some_ne_none t ht.symm).elim
  case oneTemplate => exact fun _ _ _ _ t _ ht => (Option.some_ne_none t ht.symm).elim
  case requests => exact fun _ _ q hq => (Option.some_ne_none q hq.symm).elim
  case delegations => exact fun _ _ d hd => (Option.some_ne_none d hd.symm).elim
  case oneDelegation => exact fun _ _ _ d _ hd => (Option.some_ne_none d hd.symm).elim

section Steps

variable {σ : Type}

def StoreOp.ran (S : StoreOps σ) (s : σ) (op : StoreOp) : σ := (op.run S s).2

/-- The store in memory after operations on an empty one. -/
def memoryAfter (ops : List StoreOp) : MemoryStore := exec (StoreOp.ran MemoryStore.ops) {} ops

/-- The store over PostgreSQL after operations on an empty one. -/
def postgresAfter (S : Server) (ops : List StoreOp) : PostgresStore :=
  exec (StoreOp.ran (PostgresStore.ops S)) {} ops

end Steps

/-- Stores that are alike stay alike along operations that conform. -/
theorem Alike.exec (S : Server) {m : MemoryStore} {p : PostgresStore} (h : Alike m p)
    {ops : List StoreOp}
    (hrun : Along (StoreOp.ran MemoryStore.ops) (fun m op => Conforms S m.records op) m ops) :
    Alike (Ansible.exec (StoreOp.ran MemoryStore.ops) m ops)
      (Ansible.exec (StoreOp.ran (PostgresStore.ops S)) p ops) := by
  induction ops generalizing m p with
  | nil => exact h
  | cons op ops ih =>
    obtain ⟨hc, hrun⟩ := along_cons.1 hrun
    exact ih (h.run S hc).alike hrun

/-- **In a run of operations that conform, both stores answer alike and hold the same records**
after every operation.  The induction is on the run, with the same records in both stores as its
invariant; for each operation the two bodies are compared once. -/
theorem stores_interchangeable (S : Server) {ops : List StoreOp}
    (h : Along (StoreOp.ran MemoryStore.ops) (fun m op => Conforms S m.records op) {} ops) :
    ∀ pre op post, ops = pre ++ op :: post →
      (op.run MemoryStore.ops (memoryAfter pre)).1 =
          (op.run (PostgresStore.ops S) (postgresAfter S pre)).1 ∧
        (memoryAfter (pre ++ [op])).records = (postgresAfter S (pre ++ [op])).records := by
  intro pre op post hops
  subst hops
  obtain ⟨hpre, hpost⟩ := along_append.1 h
  have halike : Alike (memoryAfter pre) (postgresAfter S pre) := alike_empty.exec S hpre
  have hagreed := halike.run S (along_cons.1 hpost).1
  refine ⟨hagreed.reply, ?_⟩
  rw [memoryAfter, postgresAfter, exec_append, exec_append]
  exact hagreed.alike.records

/-! ### A run, and an operation that is answered otherwise -/

/-- A server without the function that the activation calls. -/
def plainServer : Server := { jsonbText := some, hasObjectLength := false }

def acme : Tenant :=
  { id := "acme", organizationDID := "did:web:acme", serviceSlug := "acme", threshold := 1,
    administratorCount := 2, status := "draft", policyVersion := 1, createdAt := 0 }

def acmeOwner : Administrator :=
  { tenantID := "", did := "did:key:z1", role := "", state := "", signingAlgorithm := "p256-sha256",
    publicKeyHex := "02", custody := "hardware" }

def acmeDeputy : Administrator := { acmeOwner with did := "did:key:z2", role := "administrator" }

def acmeCredential : CredentialRecord :=
  { credentialID := "c", credentialHash := "h", credentialType := "C", subjectPairwiseHash := "s",
    issuedAt := 0, expiresAt := 1000, statusIndex := 7, status := "active",
    policySnapshotHash := "p" }

/-- A tenant with two administrators issues a credential and revokes it. -/
def acmeRun : List StoreOp :=
  [.bootstrapTenant acme acmeOwner, .putAdministrator "acme" acmeDeputy,
    .reserveStatusIndex "acme" [7], .putCredentialRecord "acme" acmeCredential,
    .setCredentialStatus "acme" "c" "revoked"]

theorem stores_interchangeable_acme :
    (StoreOp.run MemoryStore.ops (memoryAfter acmeRun) (.credentialRecords "acme")).1 =
      (StoreOp.run (PostgresStore.ops plainServer) (postgresAfter plainServer acmeRun)
        (.credentialRecords "acme")).1 ∧
    (memoryAfter (acmeRun ++ [.credentialRecords "acme"])).records =
      (postgresAfter plainServer (acmeRun ++ [.credentialRecords "acme"])).records := by
  have hfits : (MemoryStore.records {}).TenantFits (withDefaults acme) :=
    ⟨by decide +kernel, by decide +kernel, by decide +kernel, by decide, by decide,
      by unfold Precise; decide +kernel, fun _ x hx => (Option.some_ne_none x hx.symm).elim⟩
  have hbootstrap : Conforms plainServer (MemoryStore.records {})
      (.bootstrapTenant acme acmeOwner) :=
    .inr (.inr ⟨by decide, .inr ⟨hfits, by decide +kernel⟩⟩)
  have hdeputy : Conforms plainServer (memoryAfter (acmeRun.take 1)).records
      (.putAdministrator "acme" acmeDeputy) :=
    ⟨by decide +kernel, .inr ⟨by decide +kernel, .inr (by decide +kernel)⟩⟩
  have hreserve : (memoryAfter (acmeRun.take 2)).records.Known "acme" :=
    ⟨by decide +kernel, by decide +kernel⟩
  have hrecord : Conforms plainServer (memoryAfter (acmeRun.take 3)).records
      (.putCredentialRecord "acme" acmeCredential) := by
    refine .inr ⟨⟨by decide +kernel, by unfold Dated; decide +kernel,
      by unfold Dated; decide +kernel⟩,
      ?_⟩
    rw [if_pos (by decide +kernel)]
    exact .inr ⟨by unfold Precise; decide +kernel, by unfold Precise; decide +kernel,
      fun _ => rfl, fun _ x hx => (Option.some_ne_none x hx.symm).elim⟩
  have hrevoke : Conforms plainServer (memoryAfter (acmeRun.take 4)).records
      (.setCredentialStatus "acme" "c" "revoked") :=
    show areTexts _ by decide +kernel
  have hknown : (memoryAfter acmeRun).records.Known "acme" :=
    ⟨by decide +kernel, by decide +kernel⟩
  have hrun : Along (StoreOp.ran MemoryStore.ops) (fun m op => Conforms plainServer m.records op) {}
      (acmeRun ++ [.credentialRecords "acme"]) :=
    ⟨hbootstrap, hdeputy, hreserve, hrecord, hrevoke, hknown, trivial⟩
  exact stores_interchangeable plainServer hrun acmeRun (.credentialRecords "acme") [] rfl

/-- The administrators of a tenant that does not exist: the store in memory fails, the one
over PostgreSQL lists none. -/
theorem stores_differ : ¬ ∀ S pre op,
    (StoreOp.run MemoryStore.ops (memoryAfter pre) op).1 =
      (StoreOp.run (PostgresStore.ops S) (postgresAfter S pre) op).1 := by
  intro h
  have hreply : (.error .notFound : StoreReply) = .ok (.administrators 0) :=
    h plainServer [] (.administrators "acme")
  cases hreply

end Ansible.Hosted
