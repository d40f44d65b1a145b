import Ansible.Issuer.MemoryStore
import Ansible.Issuer.PostgresStore

/-!
# What the stores keep of credentials

The record of a credential is not written over, and a tenant keeps its organization.

## Main results

* `credentialLaws_memory`, `credentialLaws_postgres` — **both stores obey the laws.**
-/

namespace Ansible.Hosted

/-- **What issuing relies on**: the organization of a tenant stays, and so does the hash that is
recorded of a credential. -/
structure CredentialLaws {σ : Type} (H : StoreOps σ) (orgOf : σ → String → Option String)
    (hashOf : σ → String → String → Option String) : Prop where
  tenant : ∀ tid s t, H.tenant tid s = .ok t → orgOf s tid = some t.organizationDID
  reserveStatusIndex : ∀ tid draws s r s', H.reserveStatusIndex tid draws s = (r, s') →
    orgOf s' = orgOf s ∧ hashOf s' = hashOf s
  putCredentialRecord : ∀ tid record s r s', H.putCredentialRecord tid record s = (r, s') →
    orgOf s' = orgOf s ∧
    (∀ tid' id h, hashOf s tid' id = some h → hashOf s' tid' id = some h) ∧
    (r = .ok () → hashOf s' tid record.credentialID = some record.credentialHash)
  appendAudit : ∀ tid event s r s', H.appendAudit tid event s = (r, s') →
    orgOf s' = orgOf s ∧ hashOf s' = hashOf s

def memoryOrg (s : MemoryStore) (tenantID : String) : Option String :=
  (s.tenants tenantID).map (·.organizationDID)

def memoryHash (s : MemoryStore) (tenantID credentialID : String) : Option String :=
  ((s.credentials tenantID).lookup credentialID).map (·.credentialHash)

theorem memoryHash_setCredential (s : MemoryStore) (tid : String) (record : CredentialRecord)
    (tid' id : String) : memoryHash (s.setCredential tid record) tid' id =
      if tid' = tid ∧ id = record.credentialID then some record.credentialHash
      else memoryHash s tid' id := by
  unfold memoryHash MemoryStore.setCredential
  by_cases htid : tid' = tid
  · subst htid
    by_cases hid : id = record.credentialID
    · subst hid
      simp
    · simp [hid, AList.lookup_insert_ne]
  · simp [htid]

theorem credentialLaws_memory : CredentialLaws MemoryStore.ops memoryOrg memoryHash where
  tenant := by
    intro tid s t h
    change MemoryStore.tenant tid s = .ok t at h
    unfold MemoryStore.tenant at h
    split at h
    · rename_i t' ht
      cases h
      rw [memoryOrg, ht]
      rfl
    · cases h
  reserveStatusIndex := by
    intro tid draws s r s' h
    change MemoryStore.reserveStatusIndex tid draws s = (r, s') at h
    unfold MemoryStore.reserveStatusIndex at h
    obtain rfl := (congrArg Prod.snd h).symm
    split
    · exact ⟨rfl, rfl⟩
    split <;> exact ⟨rfl, rfl⟩
  putCredentialRecord := by
    intro tid record s r s' h
    change MemoryStore.putCredentialRecord tid record s = (r, s') at h
    unfold MemoryStore.putCredentialRecord at h
    iterate 2
      split at h
      · cases h
        exact ⟨rfl, fun _ _ _ h => h, nofun⟩
    split at h
    · rename_i existing hexisting
      split at h
      · rename_i hsame
        cases h
        refine ⟨rfl, fun _ _ _ h => h, fun _ => ?_⟩
        rw [memoryHash, hexisting]
        exact congrArg some hsame
      · cases h
        exact ⟨rfl, fun _ _ _ h => h, nofun⟩
    · rename_i hnew
      cases h
      refine ⟨rfl, ?_, fun _ => ?_⟩
      · intro tid' id hash hhash
        rw [memoryHash_setCredential]
        split
        · rename_i hsame
          rw [hsame.1, hsame.2, memoryHash, hnew] at hhash
          cases hhash
        · exact hhash
      · rw [memoryHash_setCredential, if_pos ⟨rfl, rfl⟩]
  appendAudit := by
    intro tid event s r s' h
    change MemoryStore.appendAudit tid event s = (r, s') at h
    unfold MemoryStore.appendAudit at h
    obtain rfl := (congrArg Prod.snd h).symm
    split
    · exact ⟨rfl, rfl⟩
    split <;> exact ⟨rfl, rfl⟩

def postgresOrg (s : PostgresStore) (tenantID : String) : Option String :=
  (s.tenants.lookup tenantID).map (·.organizationDID)

def postgresHash (s : PostgresStore) (tenantID credentialID : String) : Option String :=
  ((s.credentials.lookup credentialID).filter (·.tenantID == tenantID)).map (·.credentialHash)

theorem postgresHash_of_sameCredential {tid : String} {record : CredentialRecord}
    {s s' : PostgresStore} {r : Except StoreError Unit}
    (h : PostgresStore.sameCredential tid record s = (r, s')) :
    s' = s ∧ (r = .ok () → postgresHash s tid record.credentialID
      = some record.credentialHash) := by
  unfold PostgresStore.sameCredential at h
  split at h
  · rename_i existing hexisting
    split at h
    · rename_i hsame
      cases h
      refine ⟨rfl, fun _ => ?_⟩
      simp [postgresHash, hexisting, hsame.1, hsame.2]
    · cases h
      exact ⟨rfl, nofun⟩
  · cases h
    exact ⟨rfl, nofun⟩

theorem credentialLaws_postgres (server : Server) :
    CredentialLaws (PostgresStore.ops server) postgresOrg postgresHash where
  tenant := by
    intro tid s t h
    change PostgresStore.tenant tid s = .ok t at h
    unfold PostgresStore.tenant at h
    split at h
    · cases h
    split at h
    · rename_i t' ht
      cases h
      rw [postgresOrg, ht]
      rfl
    · cases h
  reserveStatusIndex := by
    intro tid draws s r s' h
    change PostgresStore.reserveStatusIndex tid draws s = (r, s') at h
    unfold PostgresStore.reserveStatusIndex at h
    obtain rfl := (congrArg Prod.snd h).symm
    split
    · exact ⟨rfl, rfl⟩
    split <;> exact ⟨rfl, rfl⟩
  putCredentialRecord := by
    intro tid record s r s' h
    change PostgresStore.putCredentialRecord tid record s = (r, s') at h
    unfold PostgresStore.putCredentialRecord at h
    have hsame : ∀ {r s'}, PostgresStore.sameCredential tid record s = (r, s') →
        postgresOrg s' = postgresOrg s ∧
        (∀ tid' id h, postgresHash s tid' id = some h → postgresHash s' tid' id = some h) ∧
        (r = .ok () → postgresHash s' tid record.credentialID = some record.credentialHash) := by
      intro r s' h
      obtain ⟨rfl, hhash⟩ := postgresHash_of_sameCredential h
      exact ⟨rfl, fun _ _ _ h => h, hhash⟩
    iterate 3
      split at h
      · cases h
        exact ⟨rfl, fun _ _ _ h => h, nofun⟩
    split at h
    · exact hsame h
    split at h
    · exact hsame h
    rename_i hnew
    split at h
    · cases h
      exact ⟨rfl, fun _ _ _ h => h, nofun⟩
    cases h
    refine ⟨rfl, ?_, fun _ => ?_⟩
    · intro tid' id hash hhash
      unfold postgresHash at hhash ⊢
      rw [Assoc.lookup_insert']
      split
      · rename_i hid
        rw [hid, AList.lookup_eq_none.2 hnew] at hhash
        cases hhash
      · exact hhash
    · simp [postgresHash]
  appendAudit := by
    intro tid event s r s' h
    change PostgresStore.appendAudit tid event s = (r, s') at h
    unfold PostgresStore.appendAudit at h
    obtain rfl := (congrArg Prod.snd h).symm
    split
    · exact ⟨rfl, rfl⟩
    split
    · exact ⟨rfl, rfl⟩
    split <;> exact ⟨rfl, rfl⟩

end Ansible.Hosted
