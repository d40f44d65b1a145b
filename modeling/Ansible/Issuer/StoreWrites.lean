import Ansible.Issuer.StoreRows

/-!
# Both stores make the same writes

Where an operation conforms, both stores either refuse it with the same class of error,
or make the same write to their records.

## Main results

* `Alike.bootstrapTenant`, `Alike.putCredentialTemplate`, `Alike.activateDelegation`, … —
  stores that are alike agree on each operation that writes.
-/

namespace Ansible.Hosted

/-- Two stores with the same records. -/
structure Alike (m : MemoryStore) (p : PostgresStore) : Prop where
  records : m.records = p.records
  kept : m.records.Kept
  keyed : m.Keyed

/-- Two operations with the same answer, that leave stores alike. -/
structure Agreed (out : StoreReply × MemoryStore) (out' : StoreReply × PostgresStore) : Prop where
  reply : out.1 = out'.1
  alike : Alike out.2 out'.2

open PostgresStore (areTexts)

theorem aligned_of_precise {t : Time} (h : Precise t) : Records.Aligned t :=
  (timestamptz_eq_some h).symm

theorem floor_lt_iff {a t : ℤ} (ht : t / 1000 * 1000 = t) : a / 1000 * 1000 < t ↔ a < t := by
  omega

theorem le_floor_iff {a t : ℤ} (ht : t / 1000 * 1000 = t) : t ≤ a / 1000 * 1000 ↔ t ≤ a := by
  omega

section Writes

variable {m : MemoryStore} {p : PostgresStore} (h : Alike m p)
include h

theorem Alike.refuse {α : Type} {f : α → Answer} (e : StoreError) :
    Agreed (answered f (.error e, m)) (answered f (.error e, p)) := ⟨rfl, h⟩

/-- Both stores answer alike, and stay as they are. -/
theorem Alike.same {α : Type} {f : α → Answer} (r : Except StoreError α) :
    Agreed (answered f (r, m)) (answered f (r, p)) := ⟨rfl, h⟩

theorem Alike.write {m' : MemoryStore} {p' : PostgresStore} (f : Records → Records)
    (hm : m'.records = f m.records) (hp : p'.records = f p.records) (hkept : (f m.records).Kept)
    (hkeyed : m'.Keyed) : Alike m' p' :=
  ⟨by rw [hm, hp, h.records], hm ▸ hkept, hkeyed⟩

theorem Alike.tenants (tid : String) : p.tenants.lookup tid = m.tenants tid :=
  (congrFun (congrArg Records.tenants h.records) tid).symm

theorem Alike.admins : p.admins = m.admins := (congrArg Records.admins h.records).symm

variable {tid i id : String} {t : Tenant} {r : CredentialRecord} {a : IssuanceApproval}
  {threshold : ℤ} {now : Time} {d : Delegation}

theorem Alike.mem_tenants : tid ∈ p.tenants ↔ (m.tenants tid).isSome := by
  rw [← AList.lookup_isSome, h.tenants]

omit h in
theorem isNone_of_tenant (ht : (m.records.tenants tid).isSome) : ¬ (m.tenants tid).isNone := by
  rw [Option.isNone_iff_eq_none, ← ne_eq, ← Option.isSome_iff_ne_none]
  exact ht

/-! ### Tenants and administrators -/

theorem Alike.insertTenant (hnew : m.tenants t.id = none) (ht : 1 ≤ t.threshold)
    (hfits : m.records.TenantFits t) :
    ∃ p', PostgresStore.insertTenant t p = some p' ∧ Alike (m.setTenant t) p' := by
  obtain ⟨htexts, hthreshold, hcount, hle, hstatus, hprecise, hunique⟩ := hfits
  have hnot : t.id ∉ p.tenants := by
    rw [h.mem_tenants, hnew]
    exact Bool.false_ne_true
  have hany : (p.tenants.values.any fun x =>
      x.organizationDID == t.organizationDID || x.serviceSlug == t.serviceSlug) = false := by
    rw [List.any_eq_false]
    intro x hx
    obtain ⟨tid, hlookup⟩ := Assoc.mem_values.1 hx
    rw [h.tenants] at hlookup
    have := hunique tid x hlookup
    simp [this.1, this.2]
  refine ⟨{ p with tenants := p.tenants.insert t.id t }, ?_, ?_⟩
  · simp only [PostgresStore.insertTenant]
    rw [show timestamptz t.createdAt = some t.createdAt from hprecise]
    dsimp only
    rw [if_neg]
    simp [htexts, hthreshold, hcount, hle, hstatus, hnot, hany, show 0 < t.threshold by omega]
  · exact h.write (·.setTenant t) (m.records_setTenant t) (p.records_insertTenant t)
      (h.kept.setTenant (by omega)) h.keyed

theorem Alike.insertTenant_eq_none (hold : (m.tenants t.id).isSome) :
    PostgresStore.insertTenant t p = none := by
  have hmem : t.id ∈ p.tenants := h.mem_tenants.2 hold
  unfold PostgresStore.insertTenant
  split
  · rfl
  · rw [if_pos (by tauto)]

theorem Alike.setAdmin (ht : (m.tenants tid).isSome) (a : Administrator) :
    Alike (m.setAdmin tid { a with tenantID := tid }) (p.setAdmin tid a) :=
  h.write (·.setAdmin tid { a with tenantID := tid }) (m.records_setAdmin ..)
    (p.records_setAdmin a) (h.kept.setAdmin ht _) h.keyed

theorem Alike.bootstrapTenant (S : Server) {owner : Administrator}
    (hc : Conforms S m.records (.bootstrapTenant t owner)) :
    Agreed (written (m.bootstrapTenant t owner)) (written (p.bootstrapTenant t owner)) := by
  have hid := withDefaults_id t
  generalize hm : m.bootstrapTenant t owner = om
  generalize hp : p.bootstrapTenant t owner = op
  simp only [MemoryStore.bootstrapTenant] at hm
  simp only [PostgresStore.bootstrapTenant] at hp
  simp only [Conforms] at hc
  generalize withDefaults t = t' at hc hid hm hp
  rw [← hid] at hc
  by_cases hbad : Nameless t' ∨ Unfit owner
  · -- both refuse the values
    unfold Nameless Unfit at hbad
    have hmemory : t'.id = "" ∨ t'.organizationDID = "" ∨ t'.serviceSlug = "" ∨
        t'.threshold < 1 ∨ t'.administratorCount < t'.threshold ∨ owner.did = "" ∨
        owner.custody ≠ "hardware" ∨ owner.signingAlgorithm ≠ "p256-sha256" := by
      rcases hbad with (hn | hn | hn | hn) | hu
      · exact .inl hn
      · exact .inr (.inl hn)
      · exact .inr (.inr (.inl hn))
      · exact .inr (.inr (.inr (.inl hn)))
      · exact .inr (.inr (.inr (.inr (.inr hu))))
    have hrows : t'.id = "" ∨ t'.organizationDID = "" ∨ t'.serviceSlug = "" ∨
        t'.threshold < 1 ∨ owner.did = "" ∨ owner.custody ≠ "hardware" ∨
        owner.signingAlgorithm ≠ "p256-sha256" := by
      simpa only [or_assoc] using hbad
    rw [if_pos hmemory] at hm
    rw [if_pos hrows] at hp
    subst hm hp
    exact h.refuse _
  obtain ⟨hle, hc⟩ := (hc.resolve_left fun hn => hbad (.inl hn)).resolve_left
    fun hu => hbad (.inr hu)
  have hcount : ¬ t'.administratorCount < t'.threshold := Int.not_lt.2 hle
  simp only [Nameless, Unfit, not_or] at hbad
  obtain ⟨⟨h1, h2, h3, h4⟩, h5, h6, h7⟩ := hbad
  rw [if_neg (by simp only [not_or]; exact ⟨h1, h2, h3, h4, hcount, h5, h6, h7⟩)] at hm
  rw [if_neg (by simp only [not_or]; exact ⟨h1, h2, h3, h4, h5, h6, h7⟩)] at hp
  by_cases hold : (m.tenants t'.id).isSome
  · rw [if_pos hold] at hm
    rw [h.insertTenant_eq_none hold] at hp
    subst hm hp
    exact h.refuse _
  · obtain ⟨hfits, htexts⟩ := hc.resolve_left hold
    have hnew : m.tenants t'.id = none := Option.not_isSome_iff_eq_none.1 hold
    have hthreshold : 1 ≤ t'.threshold := Int.not_lt.1 h4
    obtain ⟨p', hinsert, halike⟩ := h.insertTenant hnew hthreshold hfits
    rw [if_neg hold] at hm
    rw [hinsert] at hp
    simp only [htexts, not_true_eq_false, if_false] at hp
    have hempty : (m.setTenant t').admins t'.id = ∅ := h.kept.admins t'.id hnew
    have hsome : ((m.setTenant t').tenants t'.id).isSome := by simp [MemoryStore.setTenant]
    have hset := halike.setAdmin hsome { owner with role := "owner", state := "active" }
    rw [MemoryStore.setAdmin, hempty] at hset
    subst hm hp
    exact ⟨rfl, hset⟩

theorem Alike.createTenant (S : Server) (hc : Conforms S m.records (.createTenant t)) :
    Agreed (written (m.createTenant t)) (written (p.createTenant t)) := by
  have hid := withDefaults_id t
  generalize hm : m.createTenant t = om
  generalize hp : p.createTenant t = op
  simp only [MemoryStore.createTenant] at hm
  simp only [PostgresStore.createTenant] at hp
  simp only [Conforms] at hc
  generalize withDefaults t = t' at hc hid hm hp
  rw [← hid] at hc
  by_cases hbad : Nameless t'
  · unfold Nameless at hbad
    rw [if_pos hbad] at hm hp
    subst hm hp
    exact h.refuse _
  have hc := hc.resolve_left hbad
  unfold Nameless at hbad
  rw [if_neg hbad] at hm hp
  by_cases hold : (m.tenants t'.id).isSome
  · rw [if_pos hold] at hm
    rw [h.insertTenant_eq_none hold] at hp
    subst hm hp
    exact h.refuse _
  · have hnew : m.tenants t'.id = none := Option.not_isSome_iff_eq_none.1 hold
    have hthreshold : 1 ≤ t'.threshold := Int.not_lt.1 fun hlt =>
      hbad (.inr (.inr (.inr hlt)))
    obtain ⟨p', hinsert, halike⟩ := h.insertTenant hnew hthreshold (hc.resolve_left hold)
    rw [if_neg hold] at hm
    rw [hinsert] at hp
    subst hm hp
    exact ⟨rfl, halike⟩

theorem Alike.putAdministrator (S : Server) {a : Administrator}
    (hc : Conforms S m.records (.putAdministrator tid a)) :
    Agreed (written (m.putAdministrator tid a)) (written (p.putAdministrator tid a)) := by
  obtain ⟨htext, hc⟩ := hc
  generalize hm : m.putAdministrator tid a = om
  generalize hp : p.putAdministrator tid a = op
  unfold MemoryStore.putAdministrator at hm
  unfold PostgresStore.putAdministrator at hp
  rw [h.tenants, h.admins] at hp
  cases ht : m.tenants tid with
  | none =>
    have hscope : ¬ outOfScope a.tenantID tid := by
      have hnone : m.records.tenants tid = none := ht
      rwa [hnone] at hc
    rw [ht] at hm hp
    rw [if_neg hscope, if_neg (by simp [htext])] at hp
    subst hm hp
    exact h.refuse _
  | some t =>
    have hsome : m.records.tenants tid = some t := ht
    rw [hsome] at hc
    rw [ht] at hm hp
    by_cases hscope : outOfScope a.tenantID tid
    · simp only [hscope, if_true] at hm hp
      subst hm hp
      exact h.refuse _
    obtain ⟨hdid, hc⟩ := hc.resolve_left hscope
    simp only [hscope, htext, hdid, not_true_eq_false, if_false, Bool.false_eq_true] at hm hp
    by_cases hfull : a.did ∉ m.admins tid ∧ t.administratorCount ≤ (m.admins tid).keys.length
    · rw [if_pos ⟨hfull.1, h.kept.count tid t ht, hfull.2⟩] at hm
      rw [if_pos hfull] at hp
      subst hm hp
      exact h.refuse _
    · rw [if_neg fun hthree => hfull ⟨hthree.1, hthree.2.2⟩] at hm
      rw [if_neg hfull, if_neg (by simp [hc.resolve_left hfull])] at hp
      subst hm hp
      exact ⟨rfl, h.setAdmin (by rw [ht]; rfl) a⟩

/-! ### Signing keys and credentials -/

theorem Alike.putSigningKey (S : Server) {k : SigningKey}
    (hc : Conforms S m.records (.putSigningKey tid k)) :
    Agreed (written (m.putSigningKey tid k)) (written (p.putSigningKey tid k)) := by
  obtain ⟨ht, hc⟩ := hc
  have htenant : ¬ (m.tenants tid).isNone := isNone_of_tenant ht
  generalize hm : m.putSigningKey tid k = om
  generalize hp : p.putSigningKey tid k = op
  unfold MemoryStore.putSigningKey at hm
  unfold PostgresStore.putSigningKey at hp
  rw [if_neg htenant] at hm
  by_cases hscope : outOfScope k.tenantID tid
  · rw [if_pos hscope] at hm hp
    subst hm hp
    exact h.refuse _
  obtain ⟨htexts, hlevel, hprecise, hunique⟩ := hc.resolve_left hscope
  have hprecise : timestamptz k.createdAt = some k.createdAt := hprecise
  rw [if_neg hscope] at hm hp
  -- no row of any tenant has the id or the version of the key
  rw [h.records] at hunique
  have hid : k.id ∉ p.signingKeys := by
    refine not_mem_of_rows SigningKey.tenantID fun tid' => ?_
    cases hrow : (p.signingKeys.lookup k.id).filter fun x => x.tenantID == tid' with
    | none => rfl
    | some x => exact absurd rfl (hunique tid' k.id x hrow).1
  have hany : (p.signingKeys.values.any fun x => x.kmsKeyVersion == k.kmsKeyVersion ||
      (x.tenantID == tid && x.version == k.version)) = false := by
    refine any_values_eq_false SigningKey.tenantID fun tid' i x hrow => ?_
    obtain ⟨-, hkms, hversion⟩ := hunique tid' i x hrow
    have hx : x.tenantID = tid' := beq_iff_eq.1 (Option.filter_eq_some_iff.1 hrow).2
    by_cases hsame : tid' = tid
    · simp [hkms, hversion hsame]
    · simp [hkms, hx, hsame]
  have hkey : k.id ∉ m.signingKeys tid := by
    rw [← AList.lookup_eq_none]
    have hsame : (m.signingKeys tid).lookup k.id = p.records.signingKeys tid k.id :=
      congrFun (congrFun (congrArg Records.signingKeys h.records) tid) k.id
    rw [hsame]
    cases hrow : p.records.signingKeys tid k.id with
    | none => rfl
    | some x => exact absurd rfl (hunique tid k.id x hrow).1
  rw [if_neg hkey] at hm
  rw [hprecise] at hp
  simp only [htexts, hlevel, hid, hany, h.mem_tenants.2 ht, not_true_eq_false, or_self, if_false,
    Bool.false_eq_true] at hp
  subst hm hp
  exact ⟨rfl, h.write (·.setSigningKey tid { k with tenantID := tid })
    (m.records_setSigningKey ..) (p.records_insertSigningKey k hid)
    (h.kept.setSigningKey _) h.keyed⟩

theorem Alike.reserveStatusIndex (S : Server) {draws : List ℤ}
    (hc : Conforms S m.records (.reserveStatusIndex tid draws)) :
    Agreed (answered .statusIndex (m.reserveStatusIndex tid draws))
      (answered .statusIndex (p.reserveStatusIndex tid draws)) := by
  obtain ⟨htext, ht⟩ := hc
  have htenant : ¬ (m.tenants tid).isNone := isNone_of_tenant ht
  have hindexes : p.statusIndexes = m.statusIndexes :=
    (congrArg Records.statusIndexes h.records).symm
  unfold MemoryStore.reserveStatusIndex PostgresStore.reserveStatusIndex
  rw [if_neg htenant, if_neg (by simp [htext, h.mem_tenants.2 ht]), hindexes]
  cases firstFree (m.statusIndexes tid) draws with
  | none => exact h.refuse _
  | some index =>
    refine ⟨rfl, h.write (·.reserve tid index) rfl ?_ (h.kept.reserve index) h.keyed⟩
    rw [← hindexes]
    rfl

theorem Alike.credential (tid i : String) : (m.credentials tid).lookup i =
    (p.credentials.lookup i).filter fun r => r.tenantID == tid :=
  congrFun (congrFun (congrArg Records.credentials h.records) tid) i

/-- What the store over PostgreSQL answers when the record is there. -/
theorem Alike.sameCredential {x : CredentialRecord}
    (hx : (m.credentials tid).lookup r.credentialID = some x) :
    PostgresStore.sameCredential tid r p =
      (if x.credentialHash = r.credentialHash then .ok () else .error .delegationInvalid, p) := by
  rw [h.credential, Option.filter_eq_some_iff] at hx
  unfold PostgresStore.sameCredential
  rw [hx.1]
  simp only [beq_iff_eq.1 hx.2, true_and]
  split <;> rfl

theorem Alike.sameCredential_none (hx : (m.credentials tid).lookup r.credentialID = none) :
    PostgresStore.sameCredential tid r p = (.error .delegationInvalid, p) := by
  rw [h.credential] at hx
  unfold PostgresStore.sameCredential
  split
  · rename_i x hl
    rw [if_neg]
    rintro ⟨rfl, -⟩
    rw [hl, Option.filter_some] at hx
    simp at hx
  · rfl

theorem Alike.putCredentialRecord (S : Server)
    (hc : Conforms S m.records (.putCredentialRecord tid r)) :
    Agreed (written (m.putCredentialRecord tid r)) (written (p.putCredentialRecord tid r)) := by
  have hindexes : p.statusIndexes = m.statusIndexes :=
    (congrArg Records.statusIndexes h.records).symm
  generalize hm : m.putCredentialRecord tid r = om
  generalize hp : p.putCredentialRecord tid r = op
  unfold MemoryStore.putCredentialRecord at hm
  unfold PostgresStore.putCredentialRecord at hp
  by_cases hscope : outOfScope r.tenantID tid
  · rw [if_pos hscope] at hm hp
    subst hm hp
    exact h.refuse _
  obtain ⟨⟨htexts, hissued, hexpires⟩, hc⟩ := hc.resolve_left hscope
  obtain ⟨issuedAt, hissuedAt⟩ := Option.isSome_iff_exists.1 hissued
  obtain ⟨expiresAt, hexpiresAt⟩ := Option.isSome_iff_exists.1 hexpires
  rw [if_neg hscope] at hm hp
  simp only [PostgresStore.timestamps, hissuedAt, hexpiresAt, htexts, not_true_eq_false,
    if_false] at hp
  have hcm : m.records.credentials tid r.credentialID = (m.credentials tid).lookup r.credentialID :=
    rfl
  cases hx : (m.credentials tid).lookup r.credentialID with
  | some x =>
    -- the record is there already
    have hsame := h.sameCredential hx
    rw [hx] at hm
    have hmem : r.credentialID ∈ p.credentials := by
      rw [h.credential, Option.filter_eq_some_iff] at hx
      rw [← AList.lookup_isSome, hx.1]
      rfl
    rw [if_pos hmem, hsame, ite_self] at hp
    by_cases hindex : r.statusIndex ∈ m.statusIndexes tid
    · rw [if_neg (not_not.2 hindex)] at hm
      dsimp only at hm
      by_cases hhash : x.credentialHash = r.credentialHash
      · rw [if_pos hhash] at hm hp
        subst hm hp
        exact h.same _
      · rw [if_neg hhash] at hm hp
        subst hm hp
        exact h.refuse _
    · have hc := (if_neg hindex).mp hc
      rw [if_pos hindex] at hm
      rw [if_neg (hc x (hcm.trans hx))] at hp
      subst hm hp
      exact h.refuse _
  | none =>
    rw [hx] at hm
    by_cases hindex : r.statusIndex ∈ m.statusIndexes tid
    · have hc := (if_pos hindex).mp hc
      have hnone : ¬ (m.records.credentials tid r.credentialID).isSome := by
        rw [hcm, hx]
        exact Bool.false_ne_true
      obtain ⟨hissued, hexpires, hid, hunique⟩ := hc.resolve_left hnone
      obtain rfl := Option.some.inj (hissuedAt.symm.trans hissued)
      obtain rfl := Option.some.inj (hexpiresAt.symm.trans hexpires)
      rw [h.records] at hid hunique
      have hnew : r.credentialID ∉ p.credentials := not_mem_of_rows CredentialRecord.tenantID hid
      have hany : (p.credentials.values.any fun x => x.tenantID == tid &&
          (x.credentialHash == r.credentialHash || x.statusIndex == r.statusIndex)) = false := by
        refine any_values_eq_false CredentialRecord.tenantID fun tid' i x hrow => ?_
        have hx : x.tenantID = tid' := beq_iff_eq.1 (Option.filter_eq_some_iff.1 hrow).2
        by_cases hsame : tid' = tid
        · subst hsame
          have := hunique i x hrow
          simp [this.1, this.2]
        · simp [hx, hsame]
      rw [if_neg (not_not.2 hindex)] at hm
      rw [if_neg (not_not.2 (hindexes ▸ hindex)), if_neg hnew, hany] at hp
      subst hm hp
      exact ⟨rfl, h.write (·.setCredential tid r.credentialID { r with tenantID := tid })
        (m.records_setCredential ..) (p.records_insertCredential rfl fun x hx =>
          absurd (AList.lookup_isSome.1 (by rw [hx]; rfl)) hnew)
        (h.kept.setCredential ..) h.keyed⟩
    · rw [if_pos hindex] at hm
      rw [if_pos (hindexes ▸ hindex), h.sameCredential_none hx] at hp
      subst hm hp
      exact h.refuse _

theorem Alike.setCredentialStatus (S : Server) {cid status : String}
    (hc : Conforms S m.records (.setCredentialStatus tid cid status)) :
    Agreed (written (m.setCredentialStatus tid cid status))
      (written (p.setCredentialStatus tid cid status)) := by
  have hrow := h.credential tid cid
  simp only [Conforms] at hc
  generalize hm : m.setCredentialStatus tid cid status = om
  generalize hp : p.setCredentialStatus tid cid status = op
  unfold MemoryStore.setCredentialStatus at hm
  unfold PostgresStore.setCredentialStatus at hp
  -- memory looks for the row first, PostgreSQL checks the status first
  by_cases hstatus : status = "active" ∨ status = "revoked" ∨ status = "suspended"
  · rw [if_pos hstatus] at hc
    have hgood : ¬ (status ≠ "active" ∧ status ≠ "revoked" ∧ status ≠ "suspended") := by tauto
    rw [if_neg hgood, if_neg (by simp [hc])] at hp
    cases hx : (m.credentials tid).lookup cid with
    | none =>
      rw [hx] at hm hrow
      have hgone : p = op.2 ∧ op.1 = .error .notFound := by
        cases hl : p.credentials.lookup cid with
        | none =>
          rw [hl] at hp
          subst hp
          exact ⟨rfl, rfl⟩
        | some record =>
          rw [hl] at hp hrow
          have hne : record.tenantID ≠ tid := by
            rintro rfl
            simp [Option.filter_some] at hrow
          dsimp only at hp
          rw [if_pos hne] at hp
          subst hp
          exact ⟨rfl, rfl⟩
      subst hm
      refine ⟨?_, ?_⟩
      · rw [written, written, answered, answered, hgone.2]
      · exact hgone.1 ▸ h
    | some x =>
      rw [hx] at hm hrow
      obtain ⟨hl, hx'⟩ := Option.filter_eq_some_iff.1 hrow.symm
      have htid : x.tenantID = tid := beq_iff_eq.1 hx'
      dsimp only at hm
      rw [if_neg hgood] at hm
      rw [hl] at hp
      dsimp only at hp
      rw [if_neg (not_not.2 htid)] at hp
      subst hm hp
      refine ⟨rfl, h.write (·.setCredential tid cid { x with status })
        (m.records_setCredential ..) (p.records_insertCredential htid fun y hy => ?_)
        (h.kept.setCredential ..) h.keyed⟩
      rw [hl] at hy
      exact Option.some.inj hy ▸ htid
  · rw [if_neg hstatus] at hc
    have hbad : status ≠ "active" ∧ status ≠ "revoked" ∧ status ≠ "suspended" := by tauto
    obtain ⟨x, hx⟩ := Option.isSome_iff_exists.1 hc
    have hx : (m.credentials tid).lookup cid = some x := hx
    rw [hx] at hm
    dsimp only at hm
    rw [if_pos hbad] at hm hp
    subst hm hp
    exact h.refuse _

/-! ### Templates -/

theorem Alike.mem_templates {v : ℤ} :
    (i, v) ∈ p.templates tid ↔ (m.records.templates tid i v).isSome := by
  rw [h.records, ← AList.lookup_isSome]
  rfl

theorem Alike.putCredentialTemplate (S : Server) {t : CredentialTemplate} {order : List String}
    (hc : Conforms S m.records (.putCredentialTemplate tid t order)) :
    Agreed (written (m.putCredentialTemplate tid t order))
      (written (p.putCredentialTemplate tid t order)) := by
  obtain ⟨⟨-, ht⟩, hc⟩ := hc
  have htenant := isNone_of_tenant ht
  generalize hm : m.putCredentialTemplate tid t order = om
  generalize hp : p.putCredentialTemplate tid t order = op
  unfold MemoryStore.putCredentialTemplate at hm
  unfold PostgresStore.putCredentialTemplate at hp
  rw [if_neg htenant] at hm
  by_cases hscope : outOfScope t.tenantID tid
  · rw [if_pos hscope] at hm hp
    subst hm hp
    exact h.refuse _
  obtain ⟨⟨htexts, hlist, hthreshold, httl, hid, hversion, htype, hthreshold', httl'⟩, hc⟩ :=
    hc.resolve_left hscope
  obtain ⟨allowlist, hsome, hallowlist⟩ := (Option.any_eq_true _ _).1 hlist
  have hgood : ¬ (t.id = "" ∨ t.version < 1 ∨ t.credentialType = "" ∨ t.approvalThreshold < 1 ∨
      t.maxTTLDays < 1) := by
    rintro (hbad | hbad | hbad | hbad | hbad)
    · exact hid hbad
    · omega
    · exact htype hbad
    · omega
    · omega
  rw [if_neg hscope, if_neg hgood] at hm
  rw [if_neg hscope, hsome] at hp
  simp only [htexts, hallowlist, hthreshold, httl, show 0 < t.approvalThreshold by omega,
    show 0 < t.maxTTLDays by omega, not_true_eq_false, or_self, if_false, h.mem_templates,
    h.mem_tenants, show (m.tenants tid).isSome from ht] at hp
  rw [← hsome] at hp
  -- what the keys in memory say of the versions
  have hversions : ∀ key x, (m.templates tid).lookup key = some x → x.id = t.id →
      m.records.templates tid t.id x.version = some x := by
    intro key x hx hxid
    rw [← hxid]
    show (m.templates tid).lookup (versionKey x.id x.version) = some x
    rw [← h.keyed tid key x hx]
    exact hx
  by_cases hnew : ∀ v x, m.records.templates tid t.id v = some x → v < t.version
  · obtain ⟨templates, hloop, hlookup⟩ := MemoryStore.supersede_ok
      (MemoryStore.walk (m.templates tid) order) (t := t)
      fun key _ x hx hxid => hnew x.version x (hversions key x hx hxid)
    have hlookup : ∀ key, templates.lookup key =
        ((m.templates tid).lookup key).map (MemoryStore.outdated t) := by
      intro key
      rw [hlookup]
      cases hx : (m.templates tid).lookup key with
      | none => rfl
      | some x =>
        have hmem : key ∈ (m.templates tid).keys := Assoc.mem_keys_iff.2 ⟨x, hx⟩
        rw [Option.map_some, Option.map_some, if_pos (MemoryStore.mem_walk.2 hmem)]
    have hnone : ¬ (m.records.templates tid t.id t.version).isSome := by
      intro hsome
      obtain ⟨x, hx⟩ := Option.isSome_iff_exists.1 hsome
      exact absurd (hnew t.version x hx) (Int.lt_irrefl _)
    rw [hloop] at hm
    rw [if_neg hnone] at hp
    subst hm hp
    refine ⟨rfl, h.write (·.addTemplate tid { t with tenantID := tid })
      (MemoryStore.records_addTemplate h.keyed t hlookup) ?_ ?_
      (MemoryStore.keyed_addTemplate h.keyed t hlookup)⟩
    · exact p.records_addTemplate
        (fun tid i v x hx => (h.kept.templates tid i v x (h.records ▸ hx)).1) t
    · exact h.kept.addTemplate (t := { t with tenantID := tid }) hnew
  · obtain ⟨hexists, hold⟩ := hc.resolve_left hnew
    obtain ⟨x, hx⟩ := Option.isSome_iff_exists.1 hexists
    obtain ⟨hxid, hxversion⟩ := h.kept.templates tid t.id t.version x hx
    have hkey : versionKey t.id t.version ∈ (m.templates tid).keys := Assoc.mem_keys_iff.2 ⟨x, hx⟩
    obtain ⟨templates, hloop, hlookup⟩ := MemoryStore.supersede_replay
      (MemoryStore.walk (m.templates tid) order) (t := t)
      (fun hact key y hy hyid => hold hact y.version y (hversions key y hy hyid))
      ⟨versionKey t.id t.version, MemoryStore.mem_walk.2 hkey, x, hx, hxid,
        hxversion ▸ Int.le_refl _⟩
    rw [hloop] at hm
    rw [if_pos hexists] at hp
    subst hm hp
    have hsame := MemoryStore.records_templates hlookup
    refine ⟨rfl, hsame.trans h.records, hsame.symm ▸ h.kept, ?_⟩
    intro tid' key y hy
    by_cases htid : tid' = tid
    · subst htid
      simp only [written, answered, Function.update_self, hlookup] at hy
      exact h.keyed tid' key y hy
    · simp only [written, answered, Function.update_of_ne htid] at hy
      exact h.keyed tid' key y hy

/-! ### Issuance requests -/

theorem Alike.request (tid i : String) : (m.requests tid).lookup i =
    (p.requestRow tid i).map PostgresStore.scanIssuanceRequest :=
  congrFun (congrFun (congrArg Records.requests h.records) tid) i

theorem Alike.putIssuanceRequest (S : Server) {q : IssuanceRequest}
    (hc : Conforms S m.records (.putIssuanceRequest tid q)) :
    Agreed (written (m.putIssuanceRequest tid q)) (written (p.putIssuanceRequest tid q)) := by
  generalize hm : m.putIssuanceRequest tid q = om
  generalize hp : p.putIssuanceRequest tid q = op
  unfold MemoryStore.putIssuanceRequest at hm
  unfold PostgresStore.putIssuanceRequest at hp
  by_cases hscope : outOfScope q.tenantID tid
  · rw [if_pos hscope] at hm hp
    subst hm hp
    exact h.refuse _
  obtain ⟨⟨htexts, hsnapshot, hexpires, hcreated, hid, htemplate, hversion, hpairwise, hpayload,
    hexpiry⟩, hc⟩ := hc.resolve_left hscope
  obtain ⟨snapshot, hsome, hstorable⟩ := (Option.any_eq_true _ _).1 hsnapshot
  obtain ⟨expiresAt, hexpiresAt⟩ := Option.isSome_iff_exists.1 hexpires
  obtain ⟨createdAt, hcreatedAt⟩ := Option.isSome_iff_exists.1 hcreated
  have hgood : ¬ (q.id = "" ∨ q.templateID = "" ∨ q.templateVersion < 1 ∨
      q.applicantPairwiseDID = "" ∨ q.payloadHash = "" ∨ q.expiresAt = 0) := by
    have : ¬ q.templateVersion < 1 := by omega
    tauto
  rw [if_neg hscope, if_neg hgood] at hm
  rw [if_neg hscope, hsome] at hp
  simp only [PostgresStore.timestamps, hexpiresAt, hcreatedAt, htexts, hstorable,
    not_true_eq_false, or_self, if_false] at hp
  rw [← hsome] at hp
  cases hx : (m.requests tid).lookup q.id with
  | some x =>
    -- both refuse a repeated id
    have hrow := h.request tid q.id
    rw [hx] at hrow
    obtain ⟨row, hrow, -⟩ := Option.map_eq_some_iff.1 hrow.symm
    have hmem : q.id ∈ p.requests := by
      rw [← AList.lookup_isSome, (Option.filter_eq_some_iff.1 hrow).1]
      rfl
    rw [if_pos (AList.lookup_isSome.1 (by rw [hx]; rfl))] at hm
    rw [if_pos (.inl hmem)] at hp
    subst hm hp
    exact h.refuse _
  | none =>
    have hnone : ¬ (m.records.requests tid q.id).isSome := by
      show ¬ ((m.requests tid).lookup q.id).isSome
      rw [hx]
      exact Bool.false_ne_true
    obtain ⟨hexpires, hcreated, hscan, ht, htemplates, hfree, hunique⟩ := hc.resolve_left hnone
    obtain rfl := Option.some.inj (hexpiresAt.symm.trans hexpires)
    obtain rfl := Option.some.inj (hcreatedAt.symm.trans hcreated)
    have hnew : q.id ∉ p.requests := by
      refine not_mem_of_rows IssuanceRequest.tenantID fun tid' => ?_
      have hnone := hfree tid'
      rw [h.records] at hnone
      exact Option.map_eq_none_iff.1 hnone
    have hany : (p.requests.values.any fun x =>
        x.tenantID == tid && x.payloadHash == q.payloadHash) = false := by
      refine any_values_eq_false IssuanceRequest.tenantID fun tid' i x hrow => ?_
      have hx : x.tenantID = tid' := beq_iff_eq.1 (Option.filter_eq_some_iff.1 hrow).2
      by_cases hsame : tid' = tid
      · subst hsame
        have hread : m.records.requests tid' i = some (PostgresStore.scanIssuanceRequest x) := by
          rw [h.records]
          exact Option.map_eq_some_iff.2 ⟨x, hrow, rfl⟩
        have hne : x.payloadHash ≠ q.payloadHash :=
          hunique i (PostgresStore.scanIssuanceRequest x) hread
        simp [hne]
      · simp [hx, hsame]
    rw [if_neg (fun hmem => by rw [← AList.lookup_isSome, hx] at hmem; cases hmem)] at hm
    rw [if_neg (by simp [hnew, hany]), if_neg (by
      simp only [h.mem_tenants, h.mem_templates, show (m.tenants tid).isSome from ht, htemplates,
        not_true_eq_false, or_self, not_false_eq_true])] at hp
    subst hm hp
    have hread : PostgresStore.scanIssuanceRequest { q with tenantID := tid, state := "pending" } =
        { q with tenantID := tid, state := "pending" } :=
      congrArg (fun x : IssuanceRequest => { x with tenantID := tid, state := "pending" }) hscan
    have hcount : q.approvalCount = 0 := (congrArg IssuanceRequest.approvalCount hscan).symm
    have hrows := p.records_insertRequest tid q.id { q with tenantID := tid, state := "pending" }
      rfl fun x hx => absurd (AList.lookup_isSome.1 (by rw [hx]; rfl)) hnew
    rw [hread] at hrows
    exact ⟨rfl, h.write (·.setRequest tid q.id { q with tenantID := tid, state := "pending" })
      (m.records_setRequest ..) hrows
      (h.kept.setRequest rfl hcount (aligned_of_precise hexpires)) h.keyed⟩

omit h in
theorem memory_refuses (hnot : ¬ m.records.DecisionTaken tid a) :
    m.decideIssuanceRequest tid a threshold = (.error .delegationInvalid, m) := by
  unfold MemoryStore.decideIssuanceRequest
  split
  · rename_i q admin hq hadmin
    rw [if_pos]
    by_contra hgood
    simp only [not_or, not_and, not_not] at hgood
    obtain ⟨hactive, hpending, hdecision, hhash⟩ := hgood
    exact hnot ⟨⟨q, hq, hpending⟩, ⟨admin, hadmin, hactive⟩, by tauto, hhash⟩
  · rfl

theorem Alike.postgres_refuses (hnot : ¬ m.records.DecisionTaken tid a) :
    p.decideIssuanceRequest tid a threshold = (.error .delegationInvalid, p) := by
  unfold PostgresStore.decideIssuanceRequest
  split
  · rfl
  rename_i hgood
  simp only [not_or, not_and, not_not] at hgood
  obtain ⟨-, hdecision, hhash⟩ := hgood
  split
  · rfl
  split
  · rfl
  rename_i row hrow
  split
  · rfl
  rename_i hpending
  split
  · rfl
  rw [if_pos]
  by_contra hall
  simp only [not_or, not_not] at hall
  obtain ⟨-, hadmin, -⟩ := hall
  obtain ⟨admin, hlookup, hactive⟩ := (Option.any_eq_true _ _).1 hadmin
  rw [h.admins] at hlookup
  refine hnot ⟨⟨PostgresStore.scanIssuanceRequest row, ?_, not_not.1 hpending⟩,
    ⟨admin, hlookup, beq_iff_eq.1 hactive⟩, by tauto, hhash⟩
  show (m.requests tid).lookup a.requestID = _
  rw [h.request, hrow]
  rfl

theorem Alike.setRequest {row : IssuanceRequest} (hrow : p.requestRow tid i = some row)
    (state : String) :
    Alike { m with
        requests := Function.update m.requests tid ((m.requests tid).insert i
          { PostgresStore.scanIssuanceRequest row with state }) }
      (p.setRequest i row state) := by
  obtain ⟨hlookup, htid⟩ := Option.filter_eq_some_iff.1 hrow
  have hread : m.records.requests tid i = some (PostgresStore.scanIssuanceRequest row) := by
    show (m.requests tid).lookup i = _
    rw [h.request, hrow]
    rfl
  obtain ⟨hid, hcount, halign⟩ := h.kept.requests tid i _ hread
  refine h.write (·.setRequest tid i { PostgresStore.scanIssuanceRequest row with state })
    (m.records_setRequest ..) ?_ (h.kept.setRequest hid hcount halign) h.keyed
  refine p.records_insertRequest _ _ { row with state } (beq_iff_eq.1 htid) fun x hx => ?_
  rw [hlookup] at hx
  exact Option.some.inj hx ▸ beq_iff_eq.1 htid

theorem Alike.decideIssuanceRequest (S : Server)
    (hc : Conforms S m.records (.decideIssuanceRequest tid a threshold)) :
    Agreed (answered .request (m.decideIssuanceRequest tid a threshold))
      (answered .request (p.decideIssuanceRequest tid a threshold)) := by
  by_cases htaken : m.records.DecisionTaken tid a
  swap
  · rw [memory_refuses htaken, h.postgres_refuses htaken]
    exact h.refuse _
  obtain ⟨hthreshold, htexts, hdated, hfresh⟩ := hc htaken
  obtain ⟨⟨q, hq, hpending⟩, ⟨admin, hadmin, hactive⟩, hdecision, hhash⟩ := htaken
  have hq : (m.requests tid).lookup a.requestID = some q := hq
  have hadmin : (m.admins tid).lookup a.approverDID = some admin := hadmin
  obtain ⟨row, hrow, hread⟩ := Option.map_eq_some_iff.1 ((h.request tid a.requestID).symm.trans hq)
  obtain ⟨createdAt, hcreatedAt⟩ := Option.isSome_iff_exists.1 hdated
  have hid : q.id = a.requestID := (h.kept.requests tid a.requestID q hq).1
  have hnone : (m.approvals tid a.requestID).lookup a.approverDID = none :=
    Option.map_eq_none_iff.1 hfresh
  have hdecisions : decisionsOf (p.approvals tid a.requestID)
    = decisionsOf (m.approvals tid a.requestID) :=
    (congrFun (congrFun (congrArg Records.decisions h.records) tid) a.requestID).symm
  -- the state that both stores move the request to
  obtain ⟨state, hm, hp⟩ : ∃ state,
      m.decideIssuanceRequest tid a threshold = (.ok { q with state },
        (m.setApproval tid a.requestID { a with tenantID := tid }).setRequest tid
          { q with state }) ∧
      p.decideIssuanceRequest tid a threshold =
        (.ok { PostgresStore.scanIssuanceRequest row with state }, PostgresStore.setRequest
          a.requestID row state { p with
            approvals := Function.update p.approvals tid (Function.update (p.approvals tid)
              a.requestID ((p.approvals tid a.requestID).insert a.approverDID
                { a with tenantID := tid, createdAt })) }) := by
    refine ⟨if a.decision = "deny" then "denied"
      else if threshold ≤ approving ((m.approvals tid a.requestID).insert a.approverDID
        { a with tenantID := tid }) then "approved" else "pending", ?_, ?_⟩
    · unfold MemoryStore.decideIssuanceRequest
      rw [hq, hadmin]
      dsimp only
      rw [if_neg (by simp only [hactive, hpending, hhash]; tauto), hid, hnone]
      dsimp only
      rw [MemoryStore.approved_setApproval]
      by_cases hdeny : a.decision = "deny"
      · simp only [if_pos hdeny]
      · simp only [if_neg hdeny]
        split
        · rfl
        · rw [← hpending, ← hid]
    · have hnot : a.approverDID ∉ p.approvals tid a.requestID := by
        rw [← AList.lookup_eq_none]
        exact Option.map_eq_none_iff.1 ((congrFun hdecisions a.approverDID).trans hfresh)
      have hrowPending : row.state = "pending" := by
        rw [← hread] at hpending
        exact hpending
      obtain ⟨htid, hrid, hdid, hhashText⟩ : isText tid ∧ isText a.requestID ∧
          isText a.approverDID ∧ isText a.signedIntentHash := by simpa [areTexts] using htexts
      have hcount : approving ((p.approvals tid a.requestID).insert a.approverDID
          { a with tenantID := tid, createdAt }) =
          approving ((m.approvals tid a.requestID).insert a.approverDID
            { a with tenantID := tid }) := by
        refine approving_eq ?_
        rw [decisionsOf_insert, decisionsOf_insert, hdecisions]
      unfold PostgresStore.decideIssuanceRequest
      rw [if_neg (by have := Int.not_lt.2 hthreshold; tauto),
        if_neg (by simp [areTexts, htid, hrid]),
        hrow]
      dsimp only
      rw [if_neg (not_not.2 hrowPending), hcreatedAt]
      dsimp only
      rw [if_neg (by simp [areTexts, hdid, hhashText, h.admins, hadmin, hactive, hnot])]
      simp only [PostgresStore.approved, Function.update_self]
      rw [← hcount]
      rfl
  have halike : Alike (m.setApproval tid a.requestID { a with tenantID := tid }) { p with
      approvals := Function.update p.approvals tid (Function.update (p.approvals tid)
        a.requestID ((p.approvals tid a.requestID).insert a.approverDID
          { a with tenantID := tid, createdAt })) } :=
    h.write (·.setDecision tid a.requestID a.approverDID a.decision) (m.records_setApproval ..)
      (p.records_insertApproval a.requestID { a with tenantID := tid, createdAt })
      (h.kept.setDecision ..) h.keyed
  have hset := halike.setRequest hrow state
  rw [hm, hp]
  subst hread
  refine ⟨rfl, ?_⟩
  rw [MemoryStore.setRequest]
  exact hid ▸ hset

theorem Alike.consumeApprovedIssuanceRequest (S : Server)
    (hc : Conforms S m.records (.consumeApprovedIssuanceRequest tid id now)) :
    Agreed (answered .request (m.consumeApprovedIssuanceRequest tid id now))
      (answered .request (p.consumeApprovedIssuanceRequest tid id now)) := by
  obtain ⟨hdated, htexts, q, hq, happroved, hlt⟩ := hc
  have hq : (m.requests tid).lookup id = some q := hq
  obtain ⟨now', hnow⟩ := Option.isSome_iff_exists.1 hdated
  obtain ⟨row, hrow, rfl⟩ := Option.map_eq_some_iff.1 ((h.request tid id).symm.trans hq)
  have haligned := (h.kept.requests tid id _ hq).2.2
  have hlt' : now' < row.expiresAt := by
    rw [timestamptz_eq_some hnow]
    exact (floor_lt_iff haligned).2 hlt
  generalize hm : m.consumeApprovedIssuanceRequest tid id now = om
  generalize hp : p.consumeApprovedIssuanceRequest tid id now = op
  unfold MemoryStore.consumeApprovedIssuanceRequest at hm
  unfold PostgresStore.consumeApprovedIssuanceRequest at hp
  rw [hq] at hm
  dsimp only at hm
  rw [if_neg (by tauto)] at hm
  rw [hnow] at hp
  dsimp only at hp
  rw [if_neg (not_not.2 htexts), hrow] at hp
  dsimp only at hp
  rw [if_pos ⟨happroved, hlt'⟩] at hp
  subst hm hp
  exact ⟨rfl, h.setRequest hrow "offered"⟩

/-! ### Delegations -/

theorem Alike.delegation (tid i : String) :
    (m.delegations tid).lookup i = p.delegationRow tid i :=
  congrFun (congrFun (congrArg Records.delegations h.records) tid) i

theorem Alike.putDelegation (d' : Delegation) (hd : (m.delegations tid).lookup i = some d)
    (htid : d'.tenantID = d.tenantID) (hkept : (m.records.setDelegation tid i d').Kept) :
    Alike (m.putDelegation tid i d') (p.putDelegation i d') := by
  rw [h.delegation] at hd
  obtain ⟨hlookup, hd⟩ := PostgresStore.of_delegationRow hd
  refine h.write (·.setDelegation tid i d') (m.records_putDelegation ..)
    (p.records_putDelegation _ _ _ (htid.trans hd) fun x hx => ?_) hkept h.keyed
  rw [hlookup] at hx
  exact Option.some.inj hx ▸ hd

theorem Alike.proposeDelegation (S : Server)
    (hc : Conforms S m.records (.proposeDelegation tid d)) :
    Agreed (written (m.proposeDelegation tid d)) (written (p.proposeDelegation S tid d)) := by
  obtain ⟨ht, hc⟩ := hc
  have htenant := isNone_of_tenant ht
  generalize hm : m.proposeDelegation tid d = om
  generalize hp : p.proposeDelegation S tid d = op
  unfold MemoryStore.proposeDelegation at hm
  unfold PostgresStore.proposeDelegation at hp
  rw [if_neg htenant] at hm
  by_cases hscope : outOfScope d.tenantID tid
  · rw [if_pos hscope] at hm hp
    subst hm hp
    exact h.refuse _
  obtain ⟨⟨htexts, htypes, hnotBefore, hexpires, hjson, hid, hsequence, hpayload, hexpiry⟩, hc⟩ :=
    hc.resolve_left hscope
  obtain ⟨types, hsome, hlist⟩ := (Option.any_eq_true _ _).1 htypes
  obtain ⟨notBefore, hnotBefore⟩ := Option.isSome_iff_exists.1 hnotBefore
  obtain ⟨expiresAt, hexpiresAt⟩ := Option.isSome_iff_exists.1 hexpires
  obtain ⟨canonicalJSON, hcanonical⟩ := Option.isSome_iff_exists.1 hjson
  have hgood : ¬ (d.id = "" ∨ d.sequence < 1 ∨ d.payloadHash = "" ∨ d.expiresAt = 0) := by
    have : ¬ d.sequence < 1 := by omega
    tauto
  rw [if_neg hscope, if_neg hgood] at hm
  rw [if_neg hscope, hsome] at hp
  simp only [PostgresStore.timestamps, hnotBefore, hexpiresAt, hcanonical, htexts, hlist,
    not_true_eq_false, or_self, if_false] at hp
  rw [← hsome] at hp
  have hrecords : m.records.delegations = fun tid i => p.delegationRow tid i :=
    congrArg Records.delegations h.records
  rcases hc with ⟨hnotBefore', hexpires', hcanonical', hkey, hfree, hunique⟩ | ⟨hold, htaken⟩
  · -- nothing stands against the delegation
    obtain rfl := Option.some.inj (hnotBefore.symm.trans hnotBefore')
    obtain rfl := Option.some.inj (hexpiresAt.symm.trans hexpires')
    obtain rfl := Option.some.inj (hcanonical.symm.trans hcanonical')
    -- in memory the sequence must be the highest, over PostgreSQL only new
    have hnone : ((m.delegations tid).values.any fun x => d.sequence ≤ x.sequence) = false := by
      rw [List.any_eq_false]
      intro x hx
      obtain ⟨i, hi⟩ := Assoc.mem_values.1 hx
      have hlt : x.sequence < d.sequence := (hunique i x hi).1
      simpa using hlt
    rw [hrecords] at hfree hunique
    have hnew : d.id ∉ p.delegations := not_mem_of_rows Delegation.tenantID hfree
    have hany : (p.delegations.values.any fun x => x.tenantID == tid &&
        (x.sequence == d.sequence || x.payloadHash == d.payloadHash)) = false := by
      refine any_values_eq_false Delegation.tenantID fun tid' i x hrow => ?_
      have hx : x.tenantID = tid' := beq_iff_eq.1 (Option.filter_eq_some_iff.1 hrow).2
      by_cases hsame : tid' = tid
      · subst hsame
        obtain ⟨hlt, hne⟩ := hunique i x hrow
        simp [hne, Int.ne_of_lt hlt]
      · simp [hx, hsame]
    have hsigning : ((p.signingKeys.lookup d.signingKeyID).any fun k => k.tenantID == tid) := by
      rw [h.records] at hkey
      obtain ⟨k, hk⟩ := Option.isSome_iff_exists.1 hkey
      obtain ⟨hlookup, hk⟩ := Option.filter_eq_some_iff.1 hk
      rw [hlookup]
      exact hk
    rw [hnone, if_neg Bool.false_ne_true] at hm
    rw [if_neg (by simp [hnew, hany]), if_neg (by
      simp [h.mem_tenants, show (m.tenants tid).isSome from ht, hsigning])] at hp
    subst hm hp
    have hput := p.records_putDelegation tid d.id
      { d with tenantID := tid, state := "proposed", approvals := ∅ } rfl
      fun x hx => absurd (AList.lookup_isSome.1 (by rw [hx]; rfl)) hnew
    refine ⟨rfl, h.write (·.setDelegation tid d.id
      { d with tenantID := tid, state := "proposed", approvals := ∅ })
      (m.records_putDelegation ..) hput ?_ h.keyed⟩
    exact h.kept.setDelegation ht (aligned_of_precise hnotBefore') (aligned_of_precise hexpires')
      fun hactive => absurd hactive (by decide : ("proposed" : String) ≠ "active")
  · -- both find another delegation in its place
    have hsome : ((m.delegations tid).values.any fun x => d.sequence ≤ x.sequence) = true := by
      obtain ⟨i, x, hx, hle⟩ := hold
      exact List.any_eq_true.2 ⟨x, Assoc.mem_values.2 ⟨i, hx⟩, decide_eq_true hle⟩
    have hclash : d.id ∈ p.delegations ∨ (p.delegations.values.any fun x => x.tenantID == tid &&
        (x.sequence == d.sequence || x.payloadHash == d.payloadHash)) = true := by
      unfold Records.DelegationTaken at htaken
      rw [hrecords] at htaken
      rcases htaken with ⟨tid', hrow⟩ | ⟨i, x, hrow, hsame⟩
      · obtain ⟨x, hx⟩ := Option.isSome_iff_exists.1 hrow
        refine .inl (AList.lookup_isSome.1 ?_)
        rw [(PostgresStore.of_delegationRow hx).1]
        rfl
      · obtain ⟨hlookup, hx⟩ := PostgresStore.of_delegationRow hrow
        refine .inr (List.any_eq_true.2 ⟨x, Assoc.mem_values.2 ⟨i, hlookup⟩, ?_⟩)
        simpa [hx] using hsame
    rw [hsome, if_pos rfl] at hm
    rw [if_pos hclash] at hp
    subst hm hp
    exact h.refuse _

theorem Alike.approveDelegation (S : Server) {did : String} {signature : Binary}
    (hc : Conforms S m.records (.approveDelegation tid id did signature)) :
    Agreed (written (m.approveDelegation tid id did signature))
      (written (p.approveDelegation tid id did signature)) := by
  obtain ⟨htexts, hc⟩ := hc
  generalize hm : m.approveDelegation tid id did signature = om
  generalize hp : p.approveDelegation tid id did signature = op
  unfold MemoryStore.approveDelegation at hm
  unfold PostgresStore.approveDelegation at hp
  rw [if_neg (not_not.2 htexts), ← h.delegation] at hp
  cases hd : (m.delegations tid).lookup id with
  | none =>
    rw [hd] at hm hp
    subst hm hp
    exact h.refuse _
  | some d =>
    obtain ⟨hstate, ⟨admin, hadmin, hactive⟩, hsignature⟩ := hc d hd
    have hadmin : (m.admins tid).lookup did = some admin := hadmin
    rw [hd] at hm hp
    dsimp only at hm hp
    rw [hadmin] at hm
    dsimp only at hm
    rw [if_neg (by tauto)] at hm
    rw [if_neg (by simp [hstate, h.admins, hadmin, hactive])] at hp
    subst hm hp
    obtain ⟨ht, hnot, hexp⟩ := h.kept.delegations tid id d hd
    exact ⟨rfl, h.putDelegation _ hd rfl (h.kept.setDelegation ht hnot hexp fun hact =>
      absurd (hstate.symm.trans hact) (by decide : ("proposed" : String) ≠ "active"))⟩

theorem Alike.setStatus (ht : m.tenants tid = some t) (status : String) :
    Alike (m.setStatus t tid status) (p.setStatus tid status) :=
  h.write (·.setStatus t tid status) (m.records_setStatus ..)
    (p.records_setStatus ((h.tenants tid).trans ht) status) (h.kept.setStatus ht status) h.keyed

theorem Alike.activateDelegation (S : Server)
    (hc : Conforms S m.records (.activateDelegation tid id now)) :
    Agreed (written (m.activateDelegation tid id now))
      (written (p.activateDelegation S tid id now)) := by
  obtain ⟨hlength, hdated, htexts, hc⟩ := hc
  obtain ⟨now', hnow⟩ := Option.isSome_iff_exists.1 hdated
  generalize hm : m.activateDelegation tid id now = om
  generalize hp : p.activateDelegation S tid id now = op
  unfold MemoryStore.activateDelegation at hm
  unfold PostgresStore.activateDelegation at hp
  rw [if_neg (not_not.2 hlength), hnow] at hp
  dsimp only at hp
  rw [if_neg (not_not.2 htexts), ← h.delegation, h.tenants] at hp
  cases hd : (m.delegations tid).lookup id with
  | none =>
    rw [hd] at hm hp
    dsimp only at hm hp
    subst hp
    cases ht : m.tenants tid with
    | none =>
      rw [ht] at hm
      subst hm
      exact h.refuse _
    | some t =>
      rw [ht] at hm
      subst hm
      exact h.refuse _
  | some d =>
    obtain ⟨hsome, hnot, hexp⟩ := h.kept.delegations tid id d hd
    obtain ⟨t, ht⟩ := Option.isSome_iff_exists.1 hsome
    have ht : m.tenants tid = some t := ht
    obtain ⟨hstate, hfrom, huntil⟩ := hc d hd
    -- the bounds are whole microseconds, so cutting the time down to them changes no comparison
    have hfrom' : d.notBefore ≤ now' := by
      rw [timestamptz_eq_some hnow]
      exact (le_floor_iff hnot).2 hfrom
    have huntil' : now' < d.expiresAt := by
      rw [timestamptz_eq_some hnow]
      exact (floor_lt_iff hexp).2 huntil
    rw [hd, ht] at hm hp
    dsimp only at hm hp
    rw [if_neg (by tauto)] at hp
    by_cases hfew : (d.approvals.keys.length : ℤ) < t.threshold
    · rw [if_pos hfew] at hm hp
      subst hm hp
      exact h.refuse _
    · have hwindow : ¬ (now < d.notBefore ∨ ¬ now < d.expiresAt) := by
        have := Int.not_lt.2 hfrom
        tauto
      rw [if_neg hfew, if_neg hwindow] at hm
      rw [if_neg hfew] at hp
      subst hm hp
      -- two writes: the active delegations are superseded, then this one is put
      obtain ⟨hkept, hnone⟩ := h.kept.supersede tid
      have hsuperseded := h.write (·.supersede tid) (m.records_supersede tid)
        (p.records_supersede tid) hkept h.keyed
      have hd' : (((m.delegations tid).mapValues fun _ x => MemoryStore.superseded x).lookup id) =
          some d := by
        rw [Assoc.lookup_mapValues, hd, Option.map_some, MemoryStore.superseded, if_neg]
        rw [hstate]
        decide
      have hactive : (m.records.supersede tid).Kept →
          ((m.records.supersede tid).setDelegation tid id { d with state := "active" }).Kept :=
        fun hkept => hkept.setDelegation hsome hnot hexp fun _ i' d' hrow hact =>
          absurd hact (hnone i' d' hrow)
      rw [← m.records_supersede tid] at hactive hkept
      have hlookup : (Function.update m.delegations tid
          ((m.delegations tid).mapValues fun _ x => MemoryStore.superseded x) tid).lookup id =
          some d := by
        rw [Function.update_self]
        exact hd'
      have hput := hsuperseded.putDelegation { d with state := "active" } hlookup rfl
        (hactive hkept)
      exact ⟨rfl, hput.setStatus ht "active"⟩

theorem Alike.rewrite (hd : (m.delegations tid).lookup id = some d) :
    Alike m (p.putDelegation id d) := by
  have hsame : m.records.setDelegation tid id d = m.records := by
    refine Records.ext rfl rfl rfl rfl rfl rfl rfl ?_ rfl rfl
    funext tid' id'
    refine (set₂_eq tid' id').trans ?_
    split
    · rename_i hif
      rw [hif.1, hif.2]
      exact hd.symm
    · rfl
  have hput := h.putDelegation d hd rfl (hsame.symm ▸ h.kept)
  exact ⟨by rw [← hput.records, m.records_putDelegation, hsame], h.kept, h.keyed⟩

theorem Alike.revokeDelegation (S : Server)
    (hc : Conforms S m.records (.revokeDelegation tid id now)) :
    Agreed (written (m.revokeDelegation tid id now)) (written (p.revokeDelegation tid id now)) := by
  have htexts : areTexts [tid, id] := hc
  generalize hm : m.revokeDelegation tid id now = om
  generalize hp : p.revokeDelegation tid id now = op
  unfold MemoryStore.revokeDelegation at hm
  unfold PostgresStore.revokeDelegation at hp
  rw [if_neg (not_not.2 htexts), ← h.delegation] at hp
  cases hd : (m.delegations tid).lookup id with
  | none =>
    rw [hd] at hm hp
    dsimp only at hm hp
    subst hp
    cases ht : m.tenants tid with
    | none =>
      rw [ht] at hm
      subst hm
      exact h.refuse _
    | some t =>
      rw [ht] at hm
      subst hm
      exact h.refuse _
  | some d =>
    -- the tenant of a delegation exists
    obtain ⟨hsome, hnot, hexp⟩ := h.kept.delegations tid id d hd
    obtain ⟨t, ht⟩ := Option.isSome_iff_exists.1 hsome
    have ht : m.tenants tid = some t := ht
    rw [hd, ht] at hm
    rw [hd] at hp
    dsimp only at hm hp
    by_cases hrevoked : d.state = "revoked"
    · have hactive : d.state ≠ "active" := by
        rw [hrevoked]
        decide
      rw [if_pos hrevoked] at hm
      rw [if_neg hactive] at hp
      subst hm hp
      exact ⟨rfl, hrevoked ▸ h.rewrite hd⟩
    · have hput := h.putDelegation { d with state := "revoked" } hd rfl
        (h.kept.setDelegation hsome hnot hexp fun hact =>
          absurd hact (by decide : ("revoked" : String) ≠ "active"))
      rw [if_neg hrevoked] at hm
      by_cases hactive : d.state = "active"
      · rw [if_pos hactive] at hm hp
        subst hm hp
        exact ⟨rfl, hput.setStatus ht "paused"⟩
      · rw [if_neg hactive] at hm hp
        subst hm hp
        exact ⟨rfl, hput⟩

/-! ### Audit -/

theorem Alike.auditLog (tid : String) :
    m.auditLog tid = p.auditLog.filter fun e => e.tenantID == tid :=
  congrFun (congrArg Records.auditLog h.records) tid

theorem Alike.appendAudit (S : Server) {e : AuditEvent}
    (hc : Conforms S m.records (.appendAudit tid e)) :
    Agreed (written (m.appendAudit tid e)) (written (p.appendAudit tid e)) := by
  obtain ⟨ht, hc⟩ := hc
  generalize hm : m.appendAudit tid e = om
  generalize hp : p.appendAudit tid e = op
  unfold MemoryStore.appendAudit at hm
  unfold PostgresStore.appendAudit at hp
  rw [if_neg (isNone_of_tenant ht)] at hm
  by_cases hscope : outOfScope e.tenantID tid
  · rw [if_pos hscope] at hm hp
    subst hm hp
    exact h.refuse _
  · obtain ⟨htexts, hprecise, hnew⟩ := hc.resolve_left hscope
    have hany : (p.auditLog.any fun x => x.id == e.id) = false := by
      rw [List.any_eq_false]
      intro x hx
      have hmem : x ∈ m.auditLog x.tenantID := by
        rw [h.auditLog]
        exact List.mem_filter.2 ⟨hx, beq_self_eq_true _⟩
      simpa using hnew x.tenantID x hmem
    have htenant : tid ∈ p.tenants := h.mem_tenants.2 ht
    have hprecise : timestamptz e.createdAt = some e.createdAt := hprecise
    rw [if_neg hscope] at hm
    rw [if_neg hscope, hprecise] at hp
    dsimp only at hp
    rw [if_neg (by simp [htexts, hany, htenant])] at hp
    subst hm hp
    exact ⟨rfl, h.write (·.append tid { e with tenantID := tid }) rfl
      (p.records_append { e with tenantID := tid }) (h.kept.append _) h.keyed⟩

end Writes

end Ansible.Hosted
