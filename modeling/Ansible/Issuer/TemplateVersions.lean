import Ansible.Issuer.StoreAgreement

/-!
# Versions of templates

A new version of a template takes the place of the active one.  The store in memory looks for a
version that is not older while it deactivates those it comes across, in the order in which the map
is walked; the store over PostgreSQL refuses a version only when that very version is there.

## Main definitions

* `TemplateTable`, `TemplateTable.Sound` — versions by tenant and template, one of them active.
* `Upserted` — an error changes nothing, one version is active, the active version does not go
  back, and a version that is not newer is refused.
* `MemoryStore.Admits`, `MemoryStore.Spares` — the checks before the loop, and the calls that do not
  deactivate before they fail.
* `PostgresStore.Admits`, `PostgresStore.Succeeds` — the checks of the columns, and the calls whose
  version is there or is the newest.

## Main results

* `upserted_along_iff` — **the calls of a run do what is asked of them exactly when those in memory
  deactivate nothing before they fail, and those over PostgreSQL bring no version between the
  stored ones.**
-/

namespace Ansible.Hosted

/-! ### Tables of templates -/

/-- By tenant, id and version. -/
abbrev TemplateTable := String → String → ℤ → Option CredentialTemplate

/-- A version of the template is active at most once. -/
structure TemplateTable.Sound (c : TemplateTable) : Prop where
  keyed : ∀ tid i v x, c tid i v = some x → x.id = i
  oneActive : ∀ tid i v v' x x', c tid i v = some x → c tid i v' = some x' →
    x.active → x'.active → v = v'

/-- Every version of the template is older. -/
def TemplateTable.Newest (c : TemplateTable) (tid : String) (t : CredentialTemplate) : Prop :=
  ∀ v x, c tid t.id v = some x → v < t.version

/-- **What is asked of a call** that answers `r` and takes the table `c` to `c'`. -/
structure Upserted (tid : String) (t : CredentialTemplate) (r : Except StoreError Unit)
    (c c' : TemplateTable) : Prop where
  unchanged : ∀ e, r = .error e → c' = c
  oneActive : ∀ tid i v v' x x', c' tid i v = some x → c' tid i v' = some x' →
    x.active → x'.active → v = v'
  monotone : ∀ tid i v v' x x', c tid i v = some x → c' tid i v' = some x' →
    x.active → x'.active → v ≤ v'
  replayed : ∀ v x, c tid t.id v = some x → t.version ≤ v → ∃ e, r = .error e

section Table

variable {c : TemplateTable} {tid : String} {t : CredentialTemplate}

theorem Upserted.refused (hc : c.Sound) (e : StoreError) : Upserted tid t (.error e) c c where
  unchanged _ _ := rfl
  oneActive := hc.oneActive
  monotone tid i v v' x x' hx hx' hact hact' := Int.le_of_eq (hc.oneActive tid i v v' x x' hx hx'
    hact hact')
  replayed _ _ _ _ := ⟨e, rfl⟩

/-- The table goes on when a version is added, whichever. -/
theorem TemplateTable.Sound.addTemplate {c : Records} (hc : TemplateTable.Sound c.templates) :
    TemplateTable.Sound (c.addTemplate tid t).templates where
  keyed := by
    intro tid' i v x hx
    by_cases htid : tid' = tid
    · subst htid
      rcases Records.addTemplate_cases hx with ⟨rfl, -, rfl⟩ | ⟨y, hy, heq, -⟩
      · rfl
      · rw [heq]
        exact hc.keyed tid' i v y hy
    · rw [Records.addTemplate_of_ne htid] at hx
      exact hc.keyed tid' i v x hx
  oneActive := Records.oneTemplate_addTemplate hc.oneActive

/-- A call that adds a version does what is asked exactly when the version is the newest. -/
theorem Upserted.added {c : Records} (hc : TemplateTable.Sound c.templates) :
    Upserted tid t (.ok ()) c.templates
        (c.addTemplate tid { t with tenantID := tid }).templates ↔
      TemplateTable.Newest c.templates tid t := by
  constructor
  · intro h v x hx
    by_contra hnot
    obtain ⟨e, he⟩ := h.replayed v x hx (Int.not_lt.1 hnot)
    cases he
  · intro hnew
    refine ⟨fun e he => ?_, hc.addTemplate.oneActive, ?_, fun v x hx hle => ?_⟩
    · cases he
    · intro tid' i v v' x x' hx hx' hact hact'
      by_cases htid : tid' = tid
      · subst htid
        rcases Records.addTemplate_cases hx' with ⟨rfl, rfl, rfl⟩ | ⟨y, hy, -, hold⟩
        · exact Int.le_of_lt (hnew v x hx)
        · exact Int.le_of_eq (hc.oneActive tid' i v v' x y hx hy hact (hold hact').1)
      · rw [Records.addTemplate_of_ne htid] at hx'
        exact Int.le_of_eq (hc.oneActive tid' i v v' x x' hx hx' hact hact')
    · exact absurd (hnew v x hx) (Int.not_lt.2 hle)

end Table

/-! ### The store in memory -/

namespace MemoryStore

/-- The templates by id and version. -/
def table (m : MemoryStore) : TemplateTable := m.records.templates

/-- The call gets to the loop. -/
def Admits (tid : String) (t : CredentialTemplate) (m : MemoryStore) : Prop :=
  (m.tenants tid).isSome ∧ ¬ outOfScope t.tenantID tid ∧ ¬ (t.id = "" ∨ t.version < 1 ∨
    t.credentialType = "" ∨ t.approvalThreshold < 1 ∨ t.maxTTLDays < 1)

/-- The version under the key is one of the template, and not older. -/
def Blocks (tid : String) (t : CredentialTemplate) (m : MemoryStore) (key : String) : Prop :=
  ∃ x, (m.templates tid).lookup key = some x ∧ x.id = t.id ∧ t.version ≤ x.version

/-- No active version stands before the first one in the walk that is not older, when the new
version is to be active. -/
def Spares (tid : String) (t : CredentialTemplate) (order : List String) (m : MemoryStore) : Prop :=
  m.Admits tid t → t.active = true → ∀ before key rest,
    walk (m.templates tid) order = before ++ key :: rest → m.Blocks tid t key →
      (∀ k ∈ before, ¬ m.Blocks tid t k) → ∀ k ∈ before, ∀ x,
        (m.templates tid).lookup k = some x → x.id = t.id → x.active = false

variable {m : MemoryStore} {tid : String} {t : CredentialTemplate}

theorem supersede_append (keys keys' : List String) :
    supersede tid t (keys ++ keys') m = match supersede tid t keys m with
      | (.ok (), m') => supersede tid t keys' m'
      | (.error e, m') => (.error e, m') := by
  induction keys generalizing m with
  | nil => rfl
  | cons key keys ih =>
    rw [List.cons_append, supersede, supersede]
    cases (m.templates tid).lookup key with
    | none => exact ih
    | some current =>
      dsimp only
      by_cases hid : current.id = t.id
      · rw [if_pos hid, if_pos hid]
        by_cases hle : t.version ≤ current.version
        · rw [if_pos hle, if_pos hle]
        · rw [if_neg hle, if_neg hle]
          by_cases hact : t.active = true
          · rw [if_pos hact, if_pos hact]
            exact ih
          · rw [if_neg hact, if_neg hact]
            exact ih
      · rw [if_neg hid, if_neg hid]
        exact ih

theorem lt_of_not_blocks {key : String} (h : ¬ m.Blocks tid t key) {x : CredentialTemplate}
    (hx : (m.templates tid).lookup key = some x) (hid : x.id = t.id) : x.version < t.version := by
  by_contra hle
  exact h ⟨x, hx, hid, Int.not_lt.1 hle⟩

/-- **What the loop has done when it fails**: the versions before the one that is not older have
been deactivated. -/
theorem supersede_blocked {before : List String} (rest : List String) {key : String}
    (hbefore : ∀ k ∈ before, ¬ m.Blocks tid t k) (hkey : m.Blocks tid t key) :
    ∃ templates, supersede tid t (before ++ key :: rest) m = (.error .delegationReplay,
        { m with templates := Function.update m.templates tid templates }) ∧
      ∀ k, templates.lookup k = ((m.templates tid).lookup k).map fun x =>
        if k ∈ before then outdated t x else x := by
  obtain ⟨templates, hloop, hlookup⟩ := supersede_ok before
    fun k hk x hx hid => lt_of_not_blocks (hbefore k hk) hx hid
  refine ⟨templates, ?_, hlookup⟩
  obtain ⟨x, hx, hid, hle⟩ := hkey
  have hfound : ∃ y, templates.lookup key = some y ∧ y.id = t.id ∧ t.version ≤ y.version := by
    rw [hlookup, hx]
    refine ⟨_, rfl, ?_⟩
    split
    · rw [outdated_id, outdated_version]
      exact ⟨hid, hle⟩
    · exact ⟨hid, hle⟩
  obtain ⟨y, hy, hyid, hyle⟩ := hfound
  rw [supersede_append, hloop]
  dsimp only
  rw [supersede]
  dsimp only
  rw [Function.update_self, hy]
  dsimp only
  rw [if_pos hyid, if_pos hyle]

/-- A walk has a first key that blocks, or none. -/
theorem blocks_cases (m : MemoryStore) (tid : String) (t : CredentialTemplate)
    (keys : List String) : (∀ k ∈ keys, ¬ m.Blocks tid t k) ∨ ∃ before key rest,
      keys = before ++ key :: rest ∧ m.Blocks tid t key ∧ ∀ k ∈ before, ¬ m.Blocks tid t k := by
  induction keys with
  | nil => exact .inl fun k hk => absurd hk List.not_mem_nil
  | cons key keys ih =>
    by_cases hkey : m.Blocks tid t key
    · exact .inr ⟨[], key, keys, rfl, hkey, fun k hk => absurd hk List.not_mem_nil⟩
    · rcases ih with hnone | ⟨before, key', rest, rfl, hblocks, hbefore⟩
      · exact .inl (List.forall_mem_cons.2 ⟨hkey, hnone⟩)
      · exact .inr ⟨key :: before, key', rest, rfl, hblocks,
          List.forall_mem_cons.2 ⟨hkey, hbefore⟩⟩

variable (tid t) in
/-- **A call in memory** fails before the loop, or adds the newest version, or fails in the loop
after it has deactivated what it came across. -/
theorem putCredentialTemplate_cases (hkeyed : m.Keyed) (hsound : TemplateTable.Sound m.table)
    (order : List String) :
    ((∃ e, m.putCredentialTemplate tid t order = (.error e, m)) ∧ ¬ m.Admits tid t) ∨
      (m.Admits tid t ∧ (∀ k ∈ walk (m.templates tid) order, ¬ m.Blocks tid t k) ∧
        TemplateTable.Newest m.table tid t ∧ (m.putCredentialTemplate tid t order).1 = .ok () ∧
        (m.putCredentialTemplate tid t order).2.records
          = m.records.addTemplate tid { t with tenantID := tid } ∧
        (m.putCredentialTemplate tid t order).2.Keyed) ∨
      m.Admits tid t ∧ ∃ before key rest templates,
        walk (m.templates tid) order = before ++ key :: rest ∧ m.Blocks tid t key ∧
        (∀ k ∈ before, ¬ m.Blocks tid t k) ∧
        m.putCredentialTemplate tid t order = (.error .delegationReplay,
          { m with templates := Function.update m.templates tid templates }) ∧
        ∀ k, templates.lookup k = ((m.templates tid).lookup k).map fun x =>
          if k ∈ before then outdated t x else x := by
  by_cases hadmits : m.Admits tid t
  swap
  · refine .inl ⟨?_, hadmits⟩
    unfold putCredentialTemplate
    -- the checks in their order, each with what it says of the conditions
    split
    · exact ⟨_, rfl⟩
    next htenant =>
    split
    · exact ⟨_, rfl⟩
    next hscope =>
    split
    · exact ⟨_, rfl⟩
    next hfields =>
    refine absurd ⟨?_, hscope, hfields⟩ hadmits
    simpa [Option.isSome_iff_ne_none] using htenant
  refine .inr ?_
  obtain ⟨htenant, hscope, hfields⟩ := id hadmits
  rw [putCredentialTemplate, if_neg (isNone_of_tenant htenant), if_neg hscope, if_neg hfields]
  rcases blocks_cases m tid t (walk (m.templates tid) order) with
    hnone | ⟨before, key, rest, hwalk, hkey, hbefore⟩
  · obtain ⟨templates, hloop, hlookup⟩ := supersede_ok (walk (m.templates tid) order)
      fun k hk x hx hid => lt_of_not_blocks (hnone k hk) hx hid
    have hlookup : ∀ k, templates.lookup k = ((m.templates tid).lookup k).map (outdated t) := by
      intro k
      rw [hlookup]
      cases hx : (m.templates tid).lookup k with
      | none => rfl
      | some x =>
        rw [Option.map_some, Option.map_some, if_pos (mem_walk.2 (Assoc.mem_keys_iff.2 ⟨x, hx⟩))]
    rw [hloop]
    refine .inl ⟨hadmits, hnone, fun v x hx => ?_, rfl, records_addTemplate hkeyed t hlookup,
      keyed_addTemplate hkeyed t hlookup⟩
    have hx : (m.templates tid).lookup (versionKey t.id v) = some x := hx
    have hversion : v = x.version := (versionKey_injective (hkeyed tid _ x hx)).2
    rw [hversion]
    exact lt_of_not_blocks (hnone _ (mem_walk.2 (Assoc.mem_keys_iff.2 ⟨x, hx⟩))) hx
      (hsound.keyed tid t.id v x hx)
  · obtain ⟨templates, hloop, hlookup⟩ := supersede_blocked rest hbefore hkey
    refine .inr ⟨hadmits, before, key, rest, templates, hwalk, hkey, hbefore, ?_, hlookup⟩
    rw [hwalk, hloop]

/-- The first key that blocks is one. -/
theorem before_unique {before before' rest rest' : List String} {key key' : String}
    (heq : before ++ key :: rest = before' ++ key' :: rest') (hkey : m.Blocks tid t key)
    (hkey' : m.Blocks tid t key') (hbefore : ∀ k ∈ before, ¬ m.Blocks tid t k)
    (hbefore' : ∀ k ∈ before', ¬ m.Blocks tid t k) : before = before' := by
  rcases List.append_eq_append_iff.1 heq with ⟨l, rfl, hl⟩ | ⟨l, rfl, hl⟩
  · cases l with
    | nil => rw [List.append_nil]
    | cons y l =>
      obtain ⟨rfl, -⟩ := List.cons.inj hl
      exact absurd hkey (hbefore' _ (by simp))
  · cases l with
    | nil => rw [List.append_nil]
    | cons y l =>
      obtain ⟨rfl, -⟩ := List.cons.inj hl
      exact absurd hkey' (hbefore _ (by simp))

/-- A version that was deactivated is another one. -/
theorem table_ne_of_lookup {templates : Assoc String CredentialTemplate} (hkeyed : m.Keyed)
    {k : String} {x : CredentialTemplate} (hx : (m.templates tid).lookup k = some x)
    (hne : templates.lookup k ≠ some x) :
    table { m with templates := Function.update m.templates tid templates } ≠ m.table := by
  intro h
  have hsame := congrFun (congrFun (congrFun h tid) x.id) x.version
  simp only [table, records, Function.update_self] at hsame
  rw [← hkeyed tid k x hx, hx] at hsame
  exact hne hsame

/-- **A call in memory does what is asked exactly when it deactivates nothing before it fails.** -/
theorem upserted_iff (hkeyed : m.Keyed) (hsound : TemplateTable.Sound m.table)
    (order : List String) : Upserted tid t (m.putCredentialTemplate tid t order).1 m.table
      (m.putCredentialTemplate tid t order).2.table ↔ m.Spares tid t order := by
  rcases putCredentialTemplate_cases tid t hkeyed hsound order with
    ⟨⟨e, heq⟩, hadmits⟩ | ⟨-, hnone, hnewest, hok, hrecords, -⟩ |
      ⟨hadmits, before, key, rest, templates, hwalk, hkey, hbefore, heq, hlookup⟩
  · rw [heq]
    exact iff_of_true (.refused hsound e) fun h => absurd h hadmits
  · rw [hok, table, table, hrecords]
    refine iff_of_true ((Upserted.added hsound).2 hnewest)
      fun _ _ before key rest hwalk hblocks => absurd hblocks (hnone key ?_)
    rw [hwalk]
    exact List.mem_append_right _ List.mem_cons_self
  · rw [heq]
    dsimp only
    constructor
    · -- what was deactivated before the failure shows in the table
      intro h _ hact before' key' rest' hwalk' hkey' hbefore' k hk x hx hid
      obtain rfl := before_unique (hwalk'.symm.trans hwalk) hkey' hkey hbefore' hbefore
      by_contra hactive
      refine table_ne_of_lookup hkeyed hx (fun hsame => hactive ?_) (h.unchanged _ rfl)
      rw [hlookup, hx, Option.map_some, if_pos hk, outdated, if_pos ⟨hid, hact⟩] at hsame
      rw [← Option.some.inj hsame]
    · intro h
      have hsame : ∀ k, templates.lookup k = (m.templates tid).lookup k := by
        intro k
        rw [hlookup]
        cases hx : (m.templates tid).lookup k with
        | none => rfl
        | some x =>
          rw [Option.map_some]
          split
          · next hk =>
            unfold outdated
            split
            · next hif =>
              have hinactive := h hadmits hif.2 before key rest hwalk hkey hbefore k hk x hx hif.1
              cases x
              exact congrArg some (by rw [← hinactive])
            · rfl
          · rfl
      have htable : table { m with templates := Function.update m.templates tid templates }
          = m.table := by
        rw [table, records_templates hsame, table]
      rw [htable]
      exact .refused hsound _

/-- The keys and the one active version are kept, also when a call fails half way. -/
theorem sound_putCredentialTemplate (hkeyed : m.Keyed) (hsound : TemplateTable.Sound m.table)
    (order : List String) : (m.putCredentialTemplate tid t order).2.Keyed ∧
      TemplateTable.Sound (m.putCredentialTemplate tid t order).2.table := by
  rcases putCredentialTemplate_cases tid t hkeyed hsound order with
    ⟨⟨e, heq⟩, -⟩ | ⟨-, -, -, -, hrecords, hkeyed'⟩ | ⟨-, before, -, -, templates, -, -,
      -, heq, hlookup⟩
  · rw [heq]
    exact ⟨hkeyed, hsound⟩
  · rw [table, hrecords]
    exact ⟨hkeyed', hsound.addTemplate⟩
  · rw [heq]
    dsimp only
    -- each version is one from before, perhaps deactivated
    have hold : ∀ tid' k y, (Function.update m.templates tid templates tid').lookup k = some y →
        ∃ x, (m.templates tid').lookup k = some x ∧ y.id = x.id ∧ y.version = x.version ∧
          (y.active → x.active) := by
      intro tid' k y hy
      by_cases htid : tid' = tid
      · subst htid
        rw [Function.update_self, hlookup] at hy
        obtain ⟨x, hx, rfl⟩ := Option.map_eq_some_iff.1 hy
        refine ⟨x, hx, ?_⟩
        split
        · refine ⟨outdated_id t x, outdated_version t x, fun hact => ?_⟩
          unfold outdated at hact
          split at hact
          · cases hact
          · exact hact
        · exact ⟨rfl, rfl, id⟩
      · rw [Function.update_of_ne htid] at hy
        exact ⟨y, hy, rfl, rfl, id⟩
    refine ⟨fun tid' k y hy => ?_, fun tid' i v y hy => ?_, ?_⟩
    · obtain ⟨x, hx, hid, hversion, -⟩ := hold tid' k y hy
      rw [hid, hversion]
      exact hkeyed tid' k x hx
    · obtain ⟨x, hx, hid, -, -⟩ := hold tid' _ y hy
      exact hid.trans (hsound.keyed tid' i v x hx)
    · intro tid' i v v' y y' hy hy' hact hact'
      obtain ⟨x, hx, -, -, hold'⟩ := hold tid' _ y hy
      obtain ⟨x', hx', -, -, hold''⟩ := hold tid' _ y' hy'
      exact hsound.oneActive tid' i v v' x x' hx hx' (hold' hact) (hold'' hact')

theorem templates_run {op : StoreOp} (h : ∀ tid t order, op ≠ .putCredentialTemplate tid t order) :
    (op.run ops m).2.templates = m.templates := by
  cases op
  case putCredentialTemplate tid t order => exact absurd rfl (h tid t order)
  all_goals
    simp only [StoreOp.run, written, answered, read, ops, bootstrapTenant, createTenant,
      putAdministrator, putSigningKey, reserveStatusIndex, putCredentialRecord,
      setCredentialStatus, putIssuanceRequest, decideIssuanceRequest,
      consumeApprovedIssuanceRequest, proposeDelegation, approveDelegation, activateDelegation,
      revokeDelegation, appendAudit]
  all_goals
    repeat' split
    all_goals rfl

end MemoryStore

/-! ### The store over PostgreSQL -/

namespace PostgresStore

/-- The templates by id and version. -/
def table (p : PostgresStore) : TemplateTable := p.records.templates

/-- The columns can hold the version, and the tenant is there. -/
def Admits (tid : String) (t : CredentialTemplate) (p : PostgresStore) : Prop :=
  ¬ outOfScope t.tenantID tid ∧ tid ∈ p.tenants ∧ ∃ allowlist, t.claimAllowlist = some allowlist ∧
    ¬ (¬ areTexts [t.id, tid, t.credentialType] ∨ ¬ isTextArray allowlist ∨
      ¬ isInt4 t.approvalThreshold ∨ ¬ isInt4 t.maxTTLDays ∨ ¬ 0 < t.approvalThreshold ∨
      ¬ 0 < t.maxTTLDays)

/-- A version that the columns can hold is there already, or is the newest. -/
def Succeeds (tid : String) (t : CredentialTemplate) (p : PostgresStore) : Prop :=
  p.Admits tid t → (t.id, t.version) ∈ p.templates tid ∨ TemplateTable.Newest p.table tid t

variable {p : PostgresStore} {tid : String} {t : CredentialTemplate}

variable (tid t) in
/-- A call fails and changes nothing, or it adds the version. -/
theorem putCredentialTemplate_cases (hsound : TemplateTable.Sound p.table) (order : List String) :
    ((∃ e, p.putCredentialTemplate tid t order = (.error e, p)) ∧
        (p.Admits tid t → (t.id, t.version) ∈ p.templates tid)) ∨
      (p.Admits tid t ∧ (t.id, t.version) ∉ p.templates tid ∧
        (p.putCredentialTemplate tid t order).1 = .ok () ∧
        (p.putCredentialTemplate tid t order).2.table
          = (p.records.addTemplate tid { t with tenantID := tid }).templates) := by
  unfold putCredentialTemplate
  split
  · next hscope => exact .inl ⟨⟨_, rfl⟩, fun h => absurd hscope h.1⟩
  next hscope =>
  split
  · next hlist =>
    refine .inl ⟨⟨_, rfl⟩, fun h => ?_⟩
    obtain ⟨-, -, allowlist, hallowlist, -⟩ := h
    rw [hlist] at hallowlist
    cases hallowlist
  next allowlist hlist =>
  split
  · next hcolumns =>
    refine .inl ⟨⟨_, rfl⟩, fun h => ?_⟩
    obtain ⟨-, -, allowlist', hallowlist, hfit⟩ := h
    rw [hlist] at hallowlist
    cases hallowlist
    exact absurd hcolumns hfit
  next hcolumns =>
  split
  · next hthere => exact .inl ⟨⟨_, rfl⟩, fun _ => hthere⟩
  next hthere =>
  split
  · next htenant => exact .inl ⟨⟨_, rfl⟩, fun h => absurd h.2.1 htenant⟩
  next htenant =>
  refine .inr ⟨⟨hscope, not_not.1 htenant, allowlist, hlist, hcolumns⟩, hthere, rfl, ?_⟩
  exact congrArg Records.templates (p.records_addTemplate hsound.keyed t)

/-- **A call over PostgreSQL does what is asked exactly when it brings no version between the
stored ones.** -/
theorem upserted_iff (hsound : TemplateTable.Sound p.table) (order : List String) :
    Upserted tid t (p.putCredentialTemplate tid t order).1 p.table
      (p.putCredentialTemplate tid t order).2.table ↔ p.Succeeds tid t := by
  rcases putCredentialTemplate_cases tid t hsound order with
    ⟨⟨e, heq⟩, hthere⟩ | ⟨hadmits, hnew, hok, htable⟩
  · rw [heq]
    exact iff_of_true (.refused hsound e) fun h => .inl (hthere h)
  · rw [hok, htable]
    refine (Upserted.added hsound).trans ?_
    constructor
    · exact fun h _ => .inr h
    · intro h
      exact (h hadmits).resolve_left hnew

theorem sound_putCredentialTemplate (hsound : TemplateTable.Sound p.table) (order : List String) :
    TemplateTable.Sound (p.putCredentialTemplate tid t order).2.table := by
  rcases putCredentialTemplate_cases tid t hsound order with
    ⟨⟨e, heq⟩, -⟩ | ⟨-, -, -, htable⟩
  · rw [heq]
    exact hsound
  · rw [htable]
    exact hsound.addTemplate

theorem templates_insertTenant {tenant : Tenant} {p' : PostgresStore}
    (h : insertTenant tenant p = some p') : p'.templates = p.templates := by
  unfold insertTenant at h
  repeat' split at h
  all_goals
    cases h
    try rfl

theorem templates_setStatus (tid status : String) (p : PostgresStore) :
    (setStatus tid status p).templates = p.templates := by
  unfold setStatus
  repeat' split
  all_goals rfl

theorem sameCredential_snd (r : CredentialRecord) : (sameCredential tid r p).2 = p := by
  unfold sameCredential
  repeat' split
  all_goals rfl

theorem templates_run (S : Server) {op : StoreOp}
    (h : ∀ tid t order, op ≠ .putCredentialTemplate tid t order) :
    (op.run (ops S) p).2.templates = p.templates := by
  cases op
  case putCredentialTemplate tid t order => exact absurd rfl (h tid t order)
  all_goals
    simp only [StoreOp.run, written, answered, read, ops, bootstrapTenant, createTenant,
      putAdministrator, putSigningKey, reserveStatusIndex, putCredentialRecord,
      setCredentialStatus, putIssuanceRequest, decideIssuanceRequest,
      consumeApprovedIssuanceRequest, proposeDelegation, approveDelegation, activateDelegation,
      revokeDelegation, appendAudit]
  all_goals
    repeat' split
    all_goals first
      | rfl
      | exact (templates_insertTenant ‹insertTenant _ _ = some _› :)
      | exact templates_setStatus _ _ _
      | exact congrArg templates (sameCredential_snd _)

end PostgresStore

/-! ### Runs -/

/-- A call in memory does what is asked. -/
def MemoryStore.Upserts (m : MemoryStore) : StoreOp → Prop
  | .putCredentialTemplate tid t order => Upserted tid t (m.putCredentialTemplate tid t order).1
      m.table (m.putCredentialTemplate tid t order).2.table
  | _ => True

/-- A call in memory deactivates nothing before it fails. -/
def MemoryStore.SparesAt (m : MemoryStore) : StoreOp → Prop
  | .putCredentialTemplate tid t order => m.Spares tid t order
  | _ => True

def PostgresStore.Upserts (p : PostgresStore) : StoreOp → Prop
  | .putCredentialTemplate tid t order => Upserted tid t (p.putCredentialTemplate tid t order).1
      p.table (p.putCredentialTemplate tid t order).2.table
  | _ => True

/-- A call over PostgreSQL brings no version between the stored ones. -/
def PostgresStore.SucceedsAt (p : PostgresStore) : StoreOp → Prop
  | .putCredentialTemplate tid t _ => p.Succeeds tid t
  | _ => True

theorem MemoryStore.sound_ran (m : MemoryStore) (op : StoreOp)
    (h : m.Keyed ∧ TemplateTable.Sound m.table) :
    (StoreOp.ran ops m op).Keyed ∧ TemplateTable.Sound (StoreOp.ran ops m op).table := by
  by_cases hput : ∃ tid t order, op = .putCredentialTemplate tid t order
  · obtain ⟨tid, t, order, rfl⟩ := hput
    exact sound_putCredentialTemplate h.1 h.2 order
  · have hsame : (StoreOp.ran ops m op).templates = m.templates :=
      templates_run fun tid t order heq => hput ⟨tid, t, order, heq⟩
    have htable : (StoreOp.ran ops m op).table = m.table := by
      unfold table records
      rw [hsame]
    refine ⟨?_, htable ▸ h.2⟩
    unfold Keyed
    rw [hsame]
    exact h.1

theorem PostgresStore.sound_ran (S : Server) (p : PostgresStore) (op : StoreOp)
    (h : TemplateTable.Sound p.table) : TemplateTable.Sound (StoreOp.ran (ops S) p op).table := by
  by_cases hput : ∃ tid t order, op = .putCredentialTemplate tid t order
  · obtain ⟨tid, t, order, rfl⟩ := hput
    exact sound_putCredentialTemplate h order
  · have hsame : (StoreOp.ran (ops S) p op).templates = p.templates :=
      templates_run S fun tid t order heq => hput ⟨tid, t, order, heq⟩
    have htable : (StoreOp.ran (ops S) p op).table = p.table := by
      unfold table records
      rw [hsame]
    exact htable ▸ h

theorem sound_empty : (MemoryStore.Keyed {} ∧ TemplateTable.Sound (MemoryStore.table {})) ∧
    TemplateTable.Sound (PostgresStore.table {}) := by
  refine ⟨⟨?_, ?_, ?_⟩, ?_, ?_⟩
  · exact fun _ _ x hx => (Option.some_ne_none x hx.symm).elim
  · exact fun _ _ _ x hx => (Option.some_ne_none x hx.symm).elim
  · exact fun _ _ _ _ x _ hx => (Option.some_ne_none x hx.symm).elim
  · exact fun _ _ _ x hx => (Option.some_ne_none x hx.symm).elim
  · exact fun _ _ _ _ x _ hx => (Option.some_ne_none x hx.symm).elim

/-- **In every run of either store, every call does what is asked exactly when the calls in memory
deactivate nothing before they fail, and those over PostgreSQL bring no version between the stored
ones.** -/
theorem upserted_along_iff (S : Server) (ops : List StoreOp) :
    (Along (StoreOp.ran MemoryStore.ops) MemoryStore.Upserts {} ops ↔
        Along (StoreOp.ran MemoryStore.ops) MemoryStore.SparesAt {} ops) ∧
      (Along (StoreOp.ran (PostgresStore.ops S)) PostgresStore.Upserts {} ops ↔
        Along (StoreOp.ran (PostgresStore.ops S)) PostgresStore.SucceedsAt {} ops) := by
  constructor
  · refine along_congr_of_invariant (fun m op hm _ => MemoryStore.sound_ran m op hm)
      (fun m op hm => ?_) sound_empty.1
    cases op with
    | putCredentialTemplate tid t order => exact MemoryStore.upserted_iff hm.1 hm.2 order
    | _ => exact Iff.rfl
  · refine along_congr_of_invariant (fun p op hp _ => PostgresStore.sound_ran S p op hp)
      (fun p op hp => ?_) sound_empty.2
    cases op with
    | putCredentialTemplate tid t order => exact PostgresStore.upserted_iff hp order
    | _ => exact Iff.rfl

/-! ### A version between the stored ones -/

def membership (version : ℤ) (active : Bool) : CredentialTemplate :=
  { id := "member", version, credentialType := "Membership", claimAllowlist := some []
    approvalThreshold := 1, maxTTLDays := 30, active }

/-- Version 1 is active, version 3 is a draft. -/
def draftedRun : List StoreOp :=
  [.bootstrapTenant acme acmeOwner, .putCredentialTemplate "acme" (membership 1 true) [],
    .putCredentialTemplate "acme" (membership 3 false) []]

/-- Version 2 comes late, and the walk meets version 1 first. -/
def lateVersion : StoreOp :=
  .putCredentialTemplate "acme" (membership 2 true) ["member:1", "member:3"]

/-- **A late version deactivates the active one in memory before it is refused, and is accepted
over PostgreSQL.** -/
theorem late_version :
    ¬ Along (StoreOp.ran MemoryStore.ops) MemoryStore.Upserts {} (draftedRun ++ [lateVersion]) ∧
      ¬ Along (StoreOp.ran (PostgresStore.ops plainServer)) PostgresStore.Upserts {}
        (draftedRun ++ [lateVersion]) := by
  have hmemory : (lateVersion.run MemoryStore.ops (memoryAfter draftedRun)).1.isOk = false ∧
      ((memoryAfter draftedRun).table "acme" "member" 1).map (·.active) = some true ∧
      ((StoreOp.ran MemoryStore.ops (memoryAfter draftedRun) lateVersion).table
        "acme" "member" 1).map (·.active) = some false := by decide +kernel
  have hpostgres : (lateVersion.run (PostgresStore.ops plainServer)
        (postgresAfter plainServer draftedRun)).1.isOk = true ∧
      ((postgresAfter plainServer draftedRun).table "acme" "member" 3).isSome = true := by
    decide +kernel
  constructor
  · intro h
    have hlast : MemoryStore.Upserts (memoryAfter draftedRun) lateVersion := (along_append.1 h).2.1
    generalize memoryAfter draftedRun = m at hmemory hlast
    obtain ⟨herror, hbefore, hafter⟩ := hmemory
    have hrefused : ∃ e, (m.putCredentialTemplate "acme" (membership 2 true)
        ["member:1", "member:3"]).1 = .error e := by
      cases hr : (m.putCredentialTemplate "acme" (membership 2 true)
        ["member:1", "member:3"]).1 with
      | error e => exact ⟨e, rfl⟩
      | ok u =>
        have herror : Except.isOk (Except.map (fun _ => Answer.done) (m.putCredentialTemplate "acme"
          (membership 2 true) ["member:1", "member:3"]).1) = false := herror
        rw [hr] at herror
        cases herror
    obtain ⟨e, he⟩ := hrefused
    have hsame : (StoreOp.ran MemoryStore.ops m lateVersion).table = m.table :=
      hlast.unchanged e he
    rw [hsame, hbefore] at hafter
    cases hafter
  · intro h
    have hlast : PostgresStore.Upserts (postgresAfter plainServer draftedRun) lateVersion :=
      (along_append.1 h).2.1
    generalize postgresAfter plainServer draftedRun = p at hpostgres hlast
    obtain ⟨hok, hstored⟩ := hpostgres
    obtain ⟨x, hx⟩ := Option.isSome_iff_exists.1 hstored
    obtain ⟨e, he⟩ := hlast.replayed 3 x hx (by decide)
    have hok : Except.isOk (Except.map (fun _ => Answer.done) (p.putCredentialTemplate "acme"
      (membership 2 true) ["member:1", "member:3"]).1) = true := hok
    rw [he] at hok
    cases hok

end Ansible.Hosted
