import Ansible.Issuer.StoreLaws
import Ansible.Issuer.StoreOp

/-!
# The writes of both stores, seen in the records

## Main results

* `MemoryStore.records_setTenant`, `PostgresStore.records_insertTenant`, … — what each
  write does to the records.
* `MemoryStore.supersede_ok`, `MemoryStore.supersede_replay` — what the loop over the
  templates leaves, in whichever order it walks them.
-/

namespace Ansible.Hosted

/-- The keys of the templates in memory are those of their versions. -/
def MemoryStore.Keyed (m : MemoryStore) : Prop :=
  ∀ tid key t, (m.templates tid).lookup key = some t → key = versionKey t.id t.version

open PostgresStore (areTexts)

/-! ### Rows of tables -/

section Rows

variable {α : Type} (tenantOf : α → String) {t : Assoc String α} {tid i : String}

theorem row_of_lookup {x : α} (h : t.lookup i = some x) :
    (t.lookup i).filter (fun y => tenantOf y == tenantOf x) = some x := by
  rw [h, Option.filter_some]
  simp

theorem not_mem_of_rows (h : ∀ tid, (t.lookup i).filter (fun y => tenantOf y == tid) = none) :
    i ∉ t := by
  intro hmem
  obtain ⟨x, hx⟩ := Option.isSome_iff_exists.1 (AList.lookup_isSome.2 hmem)
  have hrow := row_of_lookup tenantOf hx
  rw [h] at hrow
  cases hrow

theorem any_values_eq_false {f : α → Bool}
    (h : ∀ tid i x, (t.lookup i).filter (fun y => tenantOf y == tid) = some x → f x = false) :
    t.values.any f = false := by
  rw [List.any_eq_false]
  intro x hx
  obtain ⟨i, hi⟩ := Assoc.mem_values.1 hx
  simpa using h _ i x (row_of_lookup tenantOf hi)

end Rows

/-! ### What the writes do to the records -/

theorem decisionsOf_insert (a : Assoc String IssuanceApproval) (did : String)
    (x : IssuanceApproval) :
    decisionsOf (a.insert did x) = Function.update (decisionsOf a) did (some x.decision) := by
  funext did'
  rw [decisionsOf, Assoc.lookup_insert', Function.update_apply]
  split <;> rfl

theorem approving_eq {a b : Assoc String IssuanceApproval} (h : decisionsOf a = decisionsOf b) :
    approving a = approving b := by
  have hcount : ∀ x : Assoc String IssuanceApproval, approving x =
      (x.mapValues fun _ y => y.decision).values.countP (· == "approve") := by
    intro x
    rw [approving, Assoc.values_mapValues, List.countP_map]
    rfl
  rw [hcount, hcount]
  refine (Assoc.perm_values fun did => ?_).countP_eq _
  rw [Assoc.lookup_mapValues, Assoc.lookup_mapValues]
  exact congrFun h did

namespace MemoryStore

variable (m : MemoryStore) (tid : String)

theorem records_setTenant (t : Tenant) : (m.setTenant t).records = m.records.setTenant t := rfl

theorem records_setAdmin (a : Administrator) :
    (m.setAdmin tid a).records = m.records.setAdmin tid a := rfl

theorem records_setSigningKey (k : SigningKey) :
    (m.setSigningKey tid k).records = m.records.setSigningKey tid k := by
  simp only [records, setSigningKey, Records.setSigningKey, lookup_update]

theorem records_setCredential (i : String) (r : CredentialRecord) :
    records { m with
      credentials := Function.update m.credentials tid ((m.credentials tid).insert i r) } =
      m.records.setCredential tid i r := by
  simp only [records, Records.setCredential, lookup_update]

theorem records_setRequest (i : String) (q : IssuanceRequest) :
    records { m with requests := Function.update m.requests tid ((m.requests tid).insert i q) } =
      m.records.setRequest tid i q := by
  simp only [records, Records.setRequest, lookup_update]

theorem records_setApproval (rid : String) (a : IssuanceApproval) :
    (m.setApproval tid rid a).records =
      m.records.setDecision tid rid a.approverDID a.decision := by
  refine Records.ext rfl rfl rfl rfl rfl rfl (funext fun tid' => funext fun rid' => ?_) rfl rfl rfl
  simp only [records, setApproval, Records.setDecision, Function.update_apply]
  split
  · rename_i htid
    subst htid
    simp only [Function.update_apply]
    split
    · rename_i hrid
      subst hrid
      exact decisionsOf_insert ..
    · rfl
  · rfl

theorem records_putDelegation (i : String) (d : Delegation) :
    (m.putDelegation tid i d).records = m.records.setDelegation tid i d := by
  simp only [records, putDelegation, Records.setDelegation, lookup_update]

theorem records_supersede :
    records { m with
      delegations := Function.update m.delegations tid
        ((m.delegations tid).mapValues fun _ d => superseded d) } = m.records.supersede tid := by
  refine Records.ext rfl rfl rfl rfl rfl rfl rfl (funext fun tid' => ?_) rfl rfl
  simp only [records, Records.supersede, Function.update_apply]
  split
  · rename_i htid
    subst htid
    funext i
    exact Assoc.lookup_mapValues ..
  · rfl

theorem records_setStatus (t : Tenant) (status : String) :
    (m.setStatus t tid status).records = m.records.setStatus t tid status := rfl

variable {m tid}

theorem lookup_setTemplate (key key' : String) (x : CredentialTemplate) :
    ((m.setTemplate tid key x).templates tid).lookup key' =
      if key' = key then some x else (m.templates tid).lookup key' := by
  rw [setTemplate]
  simp only [Function.update_self, Assoc.lookup_insert']

/-- What the loop does at a key whose version is older than the new one. -/
def outdate (tid : String) (t : CredentialTemplate) (key : String) (m : MemoryStore) :
    MemoryStore :=
  match (m.templates tid).lookup key with
  | some x => if x.id = t.id ∧ t.active then m.setTemplate tid key { x with active := false } else m
  | none => m

/-- A version that the loop has come across. -/
def outdated (t : CredentialTemplate) (x : CredentialTemplate) : CredentialTemplate :=
  if x.id = t.id ∧ t.active then { x with active := false } else x

theorem outdated_id (t x : CredentialTemplate) : (outdated t x).id = x.id := by
  unfold outdated
  split <;> rfl

theorem outdated_version (t x : CredentialTemplate) : (outdated t x).version = x.version := by
  unfold outdated
  split <;> rfl

theorem outdated_idem (t x : CredentialTemplate) : outdated t (outdated t x) = outdated t x := by
  unfold outdated
  by_cases hif : x.id = t.id ∧ t.active
  · simp only [hif, and_self, if_true]
  · simp only [hif, if_false]

variable {t : CredentialTemplate} {templates : Assoc String CredentialTemplate}

theorem lookup_outdate (k key : String) :
    ((m.outdate tid t k).templates tid).lookup key =
      ((m.templates tid).lookup key).map fun x => if key = k then outdated t x else x := by
  unfold outdate
  cases hx : (m.templates tid).lookup k with
  | none =>
    by_cases hkey : key = k
    · subst hkey
      rw [hx]
      rfl
    · simp [hkey]
  | some x =>
    dsimp only
    split
    · rename_i hif
      rw [lookup_setTemplate]
      by_cases hkey : key = k
      · subst hkey
        simp [hx, outdated, hif]
      · simp [hkey]
    · rename_i hif
      by_cases hkey : key = k
      · subst hkey
        simp [hx, outdated, hif]
      · simp [hkey]

theorem outdate_templates (k : String) (templates : Assoc String CredentialTemplate) :
    ({ m.outdate tid t k with
      templates := Function.update (m.outdate tid t k).templates tid templates } : MemoryStore) =
      { m with templates := Function.update m.templates tid templates } := by
  unfold outdate
  split
  · split
    · simp only [setTemplate, Function.update_idem]
    · rfl
  · rfl

theorem supersede_cons {k : String} {keys : List String}
    (hk : ∀ x, (m.templates tid).lookup k = some x → x.id = t.id → x.version < t.version) :
    supersede tid t (k :: keys) m = supersede tid t keys (m.outdate tid t k) := by
  unfold outdate
  simp only [supersede]
  cases hx : (m.templates tid).lookup k with
  | none => rfl
  | some x =>
    dsimp only
    by_cases hid : x.id = t.id
    · rw [if_pos hid, if_neg (Int.not_le.2 (hk x hx hid))]
      by_cases hact : t.active = true
      · rw [if_pos hact, if_pos ⟨hid, hact⟩]
      · rw [if_neg hact, if_neg fun hif => hact hif.2]
    · rw [if_neg hid, if_neg fun hif => hid hif.1]

/-- The loop over the templates, when the new version is newer than all of the same id that it
comes across. -/
theorem supersede_ok (keys : List String)
    (hnew : ∀ key ∈ keys, ∀ x, (m.templates tid).lookup key = some x → x.id = t.id →
      x.version < t.version) :
    ∃ templates, supersede tid t keys m =
        (.ok (), { m with templates := Function.update m.templates tid templates }) ∧
      ∀ key, templates.lookup key = ((m.templates tid).lookup key).map fun x =>
        if key ∈ keys then outdated t x else x := by
  induction keys generalizing m with
  | nil =>
    refine ⟨m.templates tid, ?_, fun key => by simp⟩
    rw [Function.update_eq_self]
    rfl
  | cons k keys ih =>
    have hlater : ∀ key ∈ keys, ∀ x, ((m.outdate tid t k).templates tid).lookup key = some x →
        x.id = t.id → x.version < t.version := by
      intro key hkey x hx hid
      rw [lookup_outdate] at hx
      obtain ⟨y, hy, rfl⟩ := Option.map_eq_some_iff.1 hx
      split at hid
      · rw [if_pos ‹_›, outdated_version]
        exact hnew key (List.mem_cons_of_mem _ hkey) y hy (outdated_id t y ▸ hid)
      · rw [if_neg ‹_›]
        exact hnew key (List.mem_cons_of_mem _ hkey) y hy hid
    obtain ⟨templates, hrest, hlookup⟩ := ih hlater
    refine ⟨templates, ?_, fun key => ?_⟩
    · rw [supersede_cons (hnew k List.mem_cons_self), hrest, outdate_templates]
    · rw [hlookup, lookup_outdate, Option.map_map]
      congr 1
      funext x
      by_cases hkey : key = k
      · subst hkey
        by_cases hmem : key ∈ keys
        · simp [hmem, outdated_idem]
        · simp [hmem]
      · simp [hkey]

/-- The loop over the templates, when it comes across a version that is not older and has
no older one to deactivate. -/
theorem supersede_replay (keys : List String)
    (hold : t.active → ∀ key x, (m.templates tid).lookup key = some x → x.id = t.id →
      x.version < t.version → x.active = false)
    (hnot : ∃ key ∈ keys, ∃ x, (m.templates tid).lookup key = some x ∧ x.id = t.id ∧
      t.version ≤ x.version) :
    ∃ templates, supersede tid t keys m = (.error .delegationReplay,
        { m with templates := Function.update m.templates tid templates }) ∧
      ∀ key, templates.lookup key = (m.templates tid).lookup key := by
  induction keys generalizing m with
  | nil =>
    obtain ⟨key, hkey, -⟩ := hnot
    cases hkey
  | cons k keys ih =>
    by_cases hk : ∀ x, (m.templates tid).lookup k = some x → x.id = t.id → x.version < t.version
    · have hsame : ∀ key, ((m.outdate tid t k).templates tid).lookup key =
          (m.templates tid).lookup key := by
        intro key
        rw [lookup_outdate]
        cases hx : (m.templates tid).lookup key with
        | none => rfl
        | some x =>
          rw [Option.map_some]
          split
          · rename_i hkey
            subst hkey
            unfold outdated
            split
            · rename_i hif
              have hinactive := hold hif.2 key x hx hif.1 (hk x hx hif.1)
              cases x
              exact congrArg some (by rw [← hinactive])
            · rfl
          · rfl
      obtain ⟨templates, hrest, hlookup⟩ := ih (m := m.outdate tid t k)
        (fun hact key x hx => hold hact key x (hsame key ▸ hx)) (by
          obtain ⟨key, hkey, x, hx, hid, hle⟩ := hnot
          rcases List.mem_cons.1 hkey with rfl | hkey
          · exact absurd (hk x hx hid) (Int.not_lt.2 hle)
          · exact ⟨key, hkey, x, (hsame key).trans hx, hid, hle⟩)
      refine ⟨templates, ?_, fun key => (hlookup key).trans (hsame key)⟩
      rw [supersede_cons hk, hrest, outdate_templates]
    · simp only [not_forall] at hk
      obtain ⟨x, hx, hid, hle⟩ := hk
      refine ⟨m.templates tid, ?_, fun key => rfl⟩
      rw [Function.update_eq_self]
      simp only [supersede, hx]
      rw [if_pos hid, if_pos (Int.not_lt.1 hle)]

theorem mem_walk {order : List String} {key : String} :
    key ∈ walk templates order ↔ key ∈ templates.keys := by
  simp only [walk, List.mem_append, List.mem_dedup, List.mem_filter, decide_eq_true_eq]
  tauto

/-- The older versions are outdated, and the new one is set. -/
theorem records_addTemplate (hkeyed : m.Keyed) (t : CredentialTemplate)
    (hlookup : ∀ key, templates.lookup key = ((m.templates tid).lookup key).map (outdated t)) :
    (setTemplate { m with templates := Function.update m.templates tid templates } tid
      (templateKey t) { t with tenantID := tid }).records =
      m.records.addTemplate tid { t with tenantID := tid } := by
  refine Records.ext rfl rfl rfl rfl (funext fun tid' => funext fun i => funext fun v => ?_)
    rfl rfl rfl rfl rfl
  by_cases htid : tid' = tid
  · subst htid
    have hkey : templateKey t = versionKey t.id t.version := rfl
    simp only [records, Records.addTemplate, Function.update_self, lookup_setTemplate, hlookup,
      hkey]
    by_cases hiv : i = t.id ∧ v = t.version
    · obtain ⟨rfl, rfl⟩ := hiv
      simp
    · rw [if_neg fun hkey => hiv (versionKey_injective hkey), if_neg hiv]
      cases hx : (m.templates tid').lookup (versionKey i v) with
      | none => simp
      | some x =>
        have hid : i = x.id := (versionKey_injective (hkeyed tid' _ x hx)).1
        simp only [Option.map_some, outdated, hid]
        split <;> rfl
  · simp only [records, Records.addTemplate, Function.update_of_ne htid, setTemplate]

theorem keyed_addTemplate (hkeyed : m.Keyed) (t : CredentialTemplate)
    (hlookup : ∀ key, templates.lookup key = ((m.templates tid).lookup key).map (outdated t)) :
    (setTemplate { m with templates := Function.update m.templates tid templates } tid
      (templateKey t) { t with tenantID := tid }).Keyed := by
  intro tid' key x hx
  by_cases htid : tid' = tid
  · subst htid
    simp only [lookup_setTemplate, Function.update_self, hlookup] at hx
    split at hx
    · rename_i hkey
      cases hx
      exact hkey
    · obtain ⟨y, hy, rfl⟩ := Option.map_eq_some_iff.1 hx
      rw [outdated_id, outdated_version]
      exact hkeyed tid' key y hy
  · simp only [setTemplate, Function.update_of_ne htid] at hx
    exact hkeyed tid' key x hx

theorem records_templates (hlookup : ∀ key, templates.lookup key = (m.templates tid).lookup key) :
    records { m with templates := Function.update m.templates tid templates } = m.records := by
  refine Records.ext rfl rfl rfl rfl (funext fun tid' => funext fun i => funext fun v => ?_)
    rfl rfl rfl rfl rfl
  by_cases htid : tid' = tid
  · subst htid
    simp only [records, Function.update_self, hlookup]
  · simp only [records, Function.update_of_ne htid]

end MemoryStore

namespace PostgresStore

variable (p : PostgresStore) {tid : String}

theorem records_insertTenant (t : Tenant) :
    records { p with tenants := p.tenants.insert t.id t } = p.records.setTenant t := by
  refine Records.ext (funext fun tid => ?_) rfl rfl rfl rfl rfl rfl rfl rfl rfl
  simp only [records, Records.setTenant, Assoc.lookup_insert', Function.update_apply]

theorem records_setAdmin (a : Administrator) :
    (p.setAdmin tid a).records = p.records.setAdmin tid { a with tenantID := tid } := rfl

theorem records_insertSigningKey (k : SigningKey) (hnew : k.id ∉ p.signingKeys) :
    records { p with
      signingKeys := p.signingKeys.insert k.id { k with tenantID := tid } } =
      p.records.setSigningKey tid { k with tenantID := tid } := by
  have hi : ∀ x, p.signingKeys.lookup k.id = some x → x.tenantID = tid := by
    intro x hx
    rw [AList.lookup_eq_none.2 hnew] at hx
    cases hx
  have hrows := lookup_insert_filter SigningKey.tenantID p.signingKeys k.id
    { k with tenantID := tid } rfl hi
  exact Records.ext rfl rfl hrows rfl rfl rfl rfl rfl rfl rfl

theorem records_insertCredential {i : String} {r : CredentialRecord} (hr : r.tenantID = tid)
    (hi : ∀ x, p.credentials.lookup i = some x → x.tenantID = tid) :
    records { p with credentials := p.credentials.insert i r } =
      p.records.setCredential tid i r := by
  have hrows := lookup_insert_filter CredentialRecord.tenantID p.credentials i r hr hi
  exact Records.ext rfl rfl rfl hrows rfl rfl rfl rfl rfl rfl

theorem records_insertRequest (tid i : String) (q : IssuanceRequest) (hq : q.tenantID = tid)
    (hi : ∀ x, p.requests.lookup i = some x → x.tenantID = tid) :
    records { p with requests := p.requests.insert i q } =
      p.records.setRequest tid i (scanIssuanceRequest q) := by
  have hrows := lookup_insert_filter IssuanceRequest.tenantID p.requests i q hq hi
  refine Records.ext rfl rfl rfl rfl rfl (funext fun tid' => funext fun i' => ?_) rfl rfl rfl rfl
  have hrow := congrFun (congrFun hrows tid') i'
  simp only [records, Records.setRequest, requestRow, set₂_eq] at hrow ⊢
  rw [hrow]
  split <;> rfl

theorem records_insertApproval (rid : String) (a : IssuanceApproval) :
    records { p with
      approvals := Function.update p.approvals tid
        (Function.update (p.approvals tid) rid ((p.approvals tid rid).insert a.approverDID a)) } =
      p.records.setDecision tid rid a.approverDID a.decision := by
  refine Records.ext rfl rfl rfl rfl rfl rfl (funext fun tid' => funext fun rid' => ?_) rfl rfl rfl
  simp only [records, Records.setDecision, Function.update_apply]
  split
  · rename_i htid
    subst htid
    simp only [Function.update_apply]
    split
    · rename_i hrid
      subst hrid
      exact decisionsOf_insert ..
    · rfl
  · rfl

theorem records_putDelegation (tid i : String) (d : Delegation) (hd : d.tenantID = tid)
    (hi : ∀ x, p.delegations.lookup i = some x → x.tenantID = tid) :
    (p.putDelegation i d).records = p.records.setDelegation tid i d := by
  have hrows := lookup_insert_filter Delegation.tenantID p.delegations i d hd hi
  exact Records.ext rfl rfl rfl rfl rfl rfl rfl hrows rfl rfl

/-- The rows of other tenants are not superseded. -/
theorem filter_supersededRow (o : Option Delegation) (tid tid' : String) :
    ((o.map (supersededRow tid)).filter fun d => d.tenantID == tid') =
      if tid' = tid then (o.filter fun d => d.tenantID == tid').map MemoryStore.superseded
      else o.filter fun d => d.tenantID == tid' := by
  cases o with
  | none => split <;> rfl
  | some d =>
    have hkeep : (supersededRow tid d).tenantID = d.tenantID := by
      unfold supersededRow
      split <;> rfl
    simp only [Option.map_some, Option.filter_some, hkeep, beq_iff_eq]
    by_cases hd : d.tenantID = tid'
    · rw [if_pos hd, if_pos hd]
      by_cases htid : tid' = tid
      · simp only [htid, if_true, Option.map_some, supersededRow, hd, MemoryStore.superseded,
          true_and]
      · simp only [htid, if_false, supersededRow, hd, false_and]
    · rw [if_neg hd, if_neg hd]
      split <;> rfl

theorem records_supersede (tid : String) :
    records { p with
      delegations := p.delegations.mapValues fun _ d => supersededRow tid d } =
      p.records.supersede tid := by
  refine Records.ext rfl rfl rfl rfl rfl rfl rfl (funext fun tid' => funext fun i => ?_) rfl rfl
  simp only [records, Records.supersede, Function.update_apply, delegationRow,
    Assoc.lookup_mapValues]
  refine (filter_supersededRow _ tid tid').trans ?_
  split
  · rename_i htid
    rw [htid]
  · rfl

theorem records_setStatus {t : Tenant} (ht : p.tenants.lookup tid = some t) (status : String) :
    (p.setStatus tid status).records = p.records.setStatus t tid status := by
  unfold setStatus
  rw [ht]
  refine Records.ext (funext fun tid' => ?_) rfl rfl rfl rfl rfl rfl rfl rfl rfl
  simp only [records, Records.setStatus, Assoc.lookup_insert', Function.update_apply]

theorem records_append (e : AuditEvent) :
    records { p with auditLog := p.auditLog ++ [e] } = p.records.append e.tenantID e := by
  refine Records.ext rfl rfl rfl rfl rfl rfl rfl rfl rfl (funext fun tid => ?_)
  simp only [records, Records.append, Function.update_apply, List.filter_append]
  by_cases htid : tid = e.tenantID
  · simp [htid]
  · simp [htid, Ne.symm htid]

/-- The other versions are deactivated, and the new one is inserted. -/
theorem records_addTemplate
    (hkeyed : ∀ tid i v x, p.records.templates tid i v = some x → x.id = i)
    (t : CredentialTemplate) :
    records { p with
      templates := Function.update p.templates tid
        ((if t.active then (p.templates tid).mapValues fun _ x => deactivate t.id x
          else p.templates tid).insert (t.id, t.version) { t with tenantID := tid }) } =
      p.records.addTemplate tid { t with tenantID := tid } := by
  refine Records.ext rfl rfl rfl rfl (funext fun tid' => funext fun i => funext fun v => ?_)
    rfl rfl rfl rfl rfl
  by_cases htid : tid' = tid
  · subst htid
    simp only [records, Records.addTemplate, Function.update_self, Assoc.lookup_insert',
      Prod.mk.injEq]
    by_cases hiv : i = t.id ∧ v = t.version
    · rw [if_pos hiv, if_pos hiv]
    · rw [if_neg hiv, if_neg hiv]
      have hid : ∀ x, (p.templates tid').lookup (i, v) = some x → x.id = i :=
        fun x hx => hkeyed tid' i v x hx
      by_cases hact : t.active = true
      · rw [if_pos hact, Assoc.lookup_mapValues]
        cases hx : (p.templates tid').lookup (i, v) with
        | none => simp
        | some x =>
          simp only [Option.map_some, deactivate, hid x hx, hact, and_true]
          split <;> rfl
      · rw [if_neg hact, if_neg fun hif => hact hif.2]
  · simp only [records, Records.addTemplate, Function.update_of_ne htid]

end PostgresStore

end Ansible.Hosted
