import Ansible.Issuer.Ceremonies

/-!
# One humanity credential per person

A ceremony looks a person up under every pepper when it commits to the person, and
keeps one commitment.  When it issues, it looks that one up again.  A pepper that was
rotated in the meantime hides the credential that another ceremony of the person has
issued under the new one.

## Main definitions

* `InTime` — a credential of the person was there when the ceremony looked it up.
* `Sighting.Valid`, `Desk.Sighted`, `Desk.Sound` — what is known between the steps of a run.

## Main results

* `one_humanity_credential` — **in runs whose ceremonies are in time, a person has one
  unrevoked humanity credential at every time**, whatever peppers are rotated.
-/

namespace Ansible.Vc

/-! ### The property and the condition -/

/-- At most one unrevoked humanity credential per person. -/
def Desk.OneEach (d : Desk) : Prop :=
  ∀ r r' person, d.store.Has r → d.store.Has r' → r.status = .active → r'.status = .active →
    d.bound r.credentialID = some person → d.bound r'.credentialID = some person → r = r'

/-- When a ceremony is about to add a humanity credential under `h`, an unrevoked one of the
person under another commitment was in the store when the person was looked up, and its
commitment was among those that were looked up. -/
def InTimeAdd (d : Desk) (h : String) (sighting : Sighting) : Prop :=
  ∀ r ∈ d.store.records, r.status = .active → d.bound r.credentialID = some sighting.person →
    r.nationalIDHash ≠ h →
      r.credentialID ∈ sighting.known ∧ r.nationalIDHash ∈ sighting.commitments

instance (d : Desk) (h : String) (sighting : Sighting) : Decidable (InTimeAdd d h sighting) :=
  inferInstanceAs (Decidable (∀ r ∈ _, _ → _ → _ → _))

/-- The condition, on the request that takes a step. -/
def InTimePc (d : Desk) : Pc → Sighting → Prop
  | .adding (draft :: _), sighting =>
      draft.nationalIDHash ≠ "" → InTimeAdd d draft.nationalIDHash sighting
  | _, _ => True

instance (d : Desk) : ∀ pc sighting, Decidable (InTimePc d pc sighting)
  | .adding (draft :: _), sighting =>
      inferInstanceAs (Decidable (draft.nationalIDHash ≠ "" → InTimeAdd d _ sighting))
  | .adding [], _ => instDecidableTrue
  | .checkAny _ _, _ => instDecidableTrue
  | .checkBinding _ _ _, _ => instDecidableTrue
  | .done _, _ => instDecidableTrue
  | .cut, _ => instDecidableTrue

/-- **No ceremony of the person adds its credential in between**: not between the lookup of
the commitment that a request stores and its add, and not between the lookup of the others
and that add. -/
def InTime (cfg : Config) (d : Desk) : DeskEvent → Prop
  | .run q env => Undisturbed cfg.issuerURL d.watched (.run q env) ∧
      ∀ pc ∈ d.watched.issuer.requests[q]?, ∀ sighting ∈ d.sightings[q]?, InTimePc d pc sighting
  | _ => True

instance (cfg : Config) (d : Desk) : ∀ e, Decidable (InTime cfg d e)
  | .call _ _ => instDecidableTrue
  | .next _ _ => instDecidableTrue
  | .run _ _ => inferInstanceAs (Decidable (_ ∧ ∀ pc ∈ _, ∀ sighting ∈ _, _))
  | .revoke _ _ => instDecidableTrue
  | .restart _ _ _ => instDecidableTrue

/-! ### What a sighting shows -/

/-- The ids of the sighting are ids of the store, and an active credential that was there is
under a commitment that is still to be looked up. -/
structure Sighting.Valid (σ : Sighting) (todo : List String) (s : Store) : Prop where
  known : ∀ id ∈ σ.known, ∃ r, s.Has r ∧ r.credentialID = id
  nonempty : "" ∉ σ.commitments
  shows : ∀ r, s.Has r → r.status = .active → r.credentialID ∈ σ.known →
    r.nationalIDHash ∈ σ.commitments → r.nationalIDHash ∈ todo

theorem Succeeds.active_of_known {s s' : Store} (h : Succeeds s s') {r' : Record}
    (hr' : s'.Has r') (hact : r'.status = .active)
    (hknown : ∃ r, s.Has r ∧ r.credentialID = r'.credentialID) : s.Has r' := by
  rcases h.active r' hr' hact with hr | hnew
  · exact hr
  · obtain ⟨r, hr, hid⟩ := hknown
    exact absurd hid (hnew r hr)

namespace Sighting.Valid

variable {σ : Sighting} {todo : List String} {s : Store}

theorem succeeds (h : σ.Valid todo s) {s' : Store} (hss : Succeeds s s') : σ.Valid todo s' where
  known := by
    intro id hid
    obtain ⟨r, hr, rfl⟩ := h.known id hid
    exact hss.kept r hr
  nonempty := h.nonempty
  shows := by
    intro r hr hact hid hmem
    exact h.shows r (hss.active_of_known hr hact (h.known _ hid)) hact hid hmem

theorem skip (h : σ.Valid ("" :: todo) s) : σ.Valid todo s where
  known := h.known
  nonempty := h.nonempty
  shows := by
    intro r hr hact hid hmem
    rcases List.mem_cons.1 (h.shows r hr hact hid hmem) with heq | htodo
    · rw [heq] at hmem
      exact absurd hmem h.nonempty
    · exact htodo

theorem looked {c : String} (h : σ.Valid (c :: todo) s) (hs : s.Consistent) (hc : c ≠ "")
    (hfree : s.checkDuplicate c = .ok ()) : σ.Valid todo s where
  known := h.known
  nonempty := h.nonempty
  shows := by
    intro r hr hact hid hmem
    rcases List.mem_cons.1 (h.shows r hr hact hid hmem) with rfl | htodo
    · have hkey : r.nationalIDKey = some r.nationalIDHash := Record.key_eq_some.2 ⟨hact, hc, rfl⟩
      exact absurd hkey ((hs.checkDuplicate _).1 hfree r hr).1
    · exact htodo

end Sighting.Valid

/-- What is seen of a person whose commitments are all still to be looked up. -/
theorem Desk.valid_sight (d : Desk) (person : Person) {commitments : List String}
    (hne : "" ∉ commitments) :
    (d.sight person commitments).Valid commitments d.store where
  known := by
    intro id hid
    obtain ⟨r, hr, rfl⟩ := List.mem_map.1 hid
    exact ⟨r, Store.mem_records.1 hr, rfl⟩
  nonempty := hne
  shows := fun _ _ _ _ hmem => hmem

theorem computeAll_ne (M : Primitives) (peppers : PepperSet) (value context : String) :
    "" ∉ computeAll M peppers value context := by
  intro h
  rcases List.mem_cons.1 h with heq | hmem
  · exact M.hmac_ne _ _ heq.symm
  · obtain ⟨p, -, heq⟩ := List.mem_map.1 hmem
    exact M.hmac_ne _ _ heq

/-! ### What the sessions and the handlers have seen -/

/-- The commitments of the session's person were looked up before the session was opened. -/
def AuthSession.Sighted (s : Store) (a : AuthSession) : Prop :=
  ∀ σ, a.sighting = some σ → σ.Valid [] s

/-- The commitments of the session's person were looked up before the session was verified. -/
def VerifiedSession.Sighted (s : Store) (v : VerifiedSession) : Prop := v.sighting.Valid [] s

/-- What the lookups of a handler have shown so far. -/
def Call.Sighted (s : Store) : Call → Prop
  | .startLookup todo session => ∀ σ, session.sighting = some σ → σ.Valid todo s
  | .startBroker session => session.Sighted s
  | .startSave _ session => session.Sighted s
  | .statusSave session => session.Sighted s
  | .callbackLookup todo session => session.sighting.Valid todo s
  | .callbackSave session => session.Sighted s
  | .passportLookup todo _ _ _ _ sighting => sighting.Valid todo s
  | _ => True

/-- The sessions, the handlers and the requests have seen what the store, `s`, holds. -/
structure Desk.Sighted (d : Desk) (s : Store) : Prop where
  mobileMoica : d.mobileMoica.All (AuthSession.Sighted s) (VerifiedSession.Sighted s)
  tw : d.tw.All (AuthSession.Sighted s) (VerifiedSession.Sighted s)
  calls : ∀ call ∈ d.calls, call.Sighted s
  sightings : ∀ σ ∈ d.sightings, σ.Valid [] s

theorem Call.Sighted.succeeds {call : Call} {s s' : Store} (h : call.Sighted s)
    (hss : Succeeds s s') : call.Sighted s' := by
  cases call with
  | startLookup todo session => exact fun σ hσ => (h σ hσ).succeeds hss
  | startBroker session => exact fun σ hσ => (h σ hσ).succeeds hss
  | startSave flow session => exact fun σ hσ => (h σ hσ).succeeds hss
  | statusSave session => exact Sighting.Valid.succeeds h hss
  | callbackLookup todo session => exact Sighting.Valid.succeeds h hss
  | callbackSave session => exact Sighting.Valid.succeeds h hss
  | passportLookup todo did stored number over18 σ => exact Sighting.Valid.succeeds h hss
  | statusVerified _ | statusSession _ | statusBroker _ | statusConsume _ _ _ => trivial
  | callbackConsume _ | issueConsume _ _ _ _ | issuing _ | replied _ | cut => trivial

theorem Desk.Sighted.succeeds {d : Desk} {s s' : Store} (h : d.Sighted s) (hss : Succeeds s s') :
    d.Sighted s' where
  mobileMoica := h.mobileMoica.mono (fun _ ha σ hσ => (ha σ hσ).succeeds hss)
    fun _ hv => Sighting.Valid.succeeds hv hss
  tw := h.tw.mono (fun _ ha σ hσ => (ha σ hσ).succeeds hss)
    fun _ hv => Sighting.Valid.succeeds hv hss
  calls := fun call hcall => (h.calls call hcall).succeeds hss
  sightings := fun σ hσ => (h.sightings σ hσ).succeeds hss

theorem Desk.Sighted.sessions {d : Desk} {s : Store} (h : d.Sighted s) :
    ∀ flow, (d.sessions flow).All (AuthSession.Sighted s) (VerifiedSession.Sighted s)
  | .mobileMoica => h.mobileMoica
  | .tw => h.tw

theorem Desk.Sighted.setSessions {d : Desk} {s : Store} (h : d.Sighted s) {t : SessionStore}
    (ht : t.All (AuthSession.Sighted s) (VerifiedSession.Sighted s)) :
    ∀ flow, (d.setSessions t flow).Sighted s
  | .mobileMoica => { h with mobileMoica := ht }
  | .tw => { h with tw := ht }

/-! ### The steps of the handlers -/

variable {M : Primitives} {cfg : Config}

theorem sighted_begin (env : CallEnv) (d : Desk) (r : CallRequest) :
    (r.begin M cfg env d).Sighted d.store := by
  cases r with
  | mobileMoicaStart holderDID nationalID consentVersion consentCopyHash =>
    simp only [CallRequest.begin]
    split
    · trivial
    · intro σ hσ
      cases hσ
      exact d.valid_sight _ (computeAll_ne _ _ _ _)
    · trivial
  | mobileMoicaStatus offerID =>
    simp only [CallRequest.begin]
    split <;> trivial
  | twStart did email =>
    simp only [CallRequest.begin]
    split
    · trivial
    · -- the person is not known yet
      intro σ hσ
      cases hσ
    · trivial
  | twCallback proof => cases proof <;> trivial
  | issue flow did email offerID =>
    simp only [CallRequest.begin]
    split <;> trivial
  | passportIssue did nationality challenge proof consumed =>
    simp only [CallRequest.begin]
    split
    · trivial
    · trivial
    split
    · trivial
    split
    · trivial
    split
    · refine d.valid_sight _ ?_
      rw [List.mem_append, not_or]
      exact ⟨computeAll_ne _ _ _ _, computeAll_ne _ _ _ _⟩
    · exact d.valid_sight _ (computeAll_ne _ _ _ _)

/-- The lookup of a commitment shows that no active credential is under it. -/
theorem sighted_lookUp {s : Store} (hs : s.Consistent) {σ : Sighting} {todo : List String}
    (h : σ.Valid todo s) {duplicate : String} {onward : List String → Call} {finish : Call}
    (honward : ∀ todo', σ.Valid todo' s → (onward todo').Sighted s)
    (hfinish : σ.Valid [] s → finish.Sighted s) :
    (lookUp s duplicate onward finish todo).Sighted s := by
  cases todo with
  | nil => exact hfinish h
  | cons c todo =>
    simp only [lookUp]
    split
    · rename_i hc
      subst hc
      exact honward todo h.skip
    · rename_i hc
      split
      · rename_i hfree
        exact honward todo (h.looked hs hc hfree)
      · trivial

/-- What a step of a handler leaves. -/
structure Desk.Advanced (d : Desk) (out : Call × Desk) : Prop where
  call : out.1.Sighted d.store
  sighted : out.2.Sighted d.store
  watched : out.2.watched.Sound
  store : out.2.store = d.store
  length : out.2.sightings.length = out.2.watched.issuer.requests.length
  bound : out.2.bound = d.bound

theorem Desk.Advanced.of_setSessions {d : Desk} (t : SessionStore) (flow : Flow)
    {out : Call × Desk} (h : (d.setSessions t flow).Advanced out) : d.Advanced out := by
  cases flow with
  | mobileMoica => exact ⟨h.call, h.sighted, h.watched, h.store, h.length, h.bound⟩
  | tw => exact ⟨h.call, h.sighted, h.watched, h.store, h.length, h.bound⟩

section Advanced

variable {d : Desk} (hd : d.Sighted d.store) (hw : d.watched.Sound)
  (hlen : d.sightings.length = d.watched.issuer.requests.length)
include hd hw hlen

/-- The handler goes on, and the desk stays as it is. -/
theorem Desk.Sighted.onward {call : Call} (h : call.Sighted d.store) : d.Advanced (call, d) :=
  ⟨h, hd, hw, rfl, hlen, rfl⟩

/-- The handler has written to the sessions. -/
theorem Desk.Sighted.write {t : SessionStore}
    (ht : t.All (AuthSession.Sighted d.store) (VerifiedSession.Sighted d.store)) (flow : Flow)
    {call : Call} (h : call.Sighted d.store) : d.Advanced (call, d.setSessions t flow) := by
  refine ⟨h, hd.setSessions ht flow, ?_, ?_, ?_, ?_⟩
  · cases flow <;> exact hw
  · cases flow <;> rfl
  · cases flow <;> exact hlen
  · cases flow <;> rfl

/-- The issuer takes the request of a person over whose commitments were looked up. -/
theorem Desk.Sighted.handOver {r : Request} {σ : Sighting} (h : σ.Valid [] d.store) :
    d.Advanced (d.handOver cfg r σ) where
  call := trivial
  sighted := by
    refine { hd with sightings := ?_ }
    intro σ' hσ'
    rcases List.mem_append.1 hσ' with hold | hnew
    · exact hd.sightings σ' hold
    · rw [List.mem_singleton] at hnew
      exact hnew ▸ h
  watched := Watched.Sound.watch (e := .request r) hw trivial
  store := rfl
  length := by
    simp only [Desk.handOver, watch, Vc.step, List.length_append, List.length_singleton, hlen]
  bound := rfl

/-- The first lookup, of a person who is known or not. -/
theorem Desk.Sighted.startLookup (M : Primitives) (cfg : Config) (env : CallEnv)
    {todo : List String} {session : AuthSession}
    (h : (Call.startLookup todo session).Sighted d.store) :
    d.Advanced ((Call.startLookup todo session).next M cfg env d) := by
  refine hd.onward hw hlen ?_
  cases hσ : session.sighting with
  | none =>
    -- nobody was sighted, so there is nothing to show
    have hnone : ∀ todo' σ, session.sighting = some σ → σ.Valid todo' d.store := by
      intro _ σ hsome
      rw [hσ] at hsome
      cases hsome
    cases todo with
    | nil => exact hnone []
    | cons c todo =>
      simp only [lookUp]
      split
      · exact hnone todo
      split
      · exact hnone todo
      · trivial
  | some σ =>
    have hsame : ∀ todo', σ.Valid todo' d.store →
        ∀ σ', session.sighting = some σ' → σ'.Valid todo' d.store := by
      intro _ hvalid σ' hσ'
      rw [hσ] at hσ'
      exact Option.some.inj hσ' ▸ hvalid
    exact sighted_lookUp hw.store.consistent (h σ hσ) (fun todo' => hsame todo') (hsame [])

/-- The broker's answer is taken: the session is consumed, and gives back what its lookups saw. -/
theorem Desk.Sighted.statusConsume (M : Primitives) (cfg : Config) (env : CallEnv)
    (state replayID : String) (expiresAt : Option Instant) :
    d.Advanced ((Call.statusConsume state replayID expiresAt).next M cfg env d) := by
  obtain ⟨hkept, hsession⟩ := SessionStore.all_consumeAuthState (fun _ ha => ha)
    hd.mobileMoica state replayID env.now env.writes
  simp only [Call.next]
  split
  · rename_i e t heq
    rw [heq] at hkept
    exact hd.write hw hlen hkept .mobileMoica trivial
  rename_i consumed t heq
  rw [heq] at hkept hsession
  split
  · exact hd.write hw hlen hkept .mobileMoica trivial
  rename_i σ hσ
  split
  · exact hd.write hw hlen hkept .mobileMoica trivial
  · exact hd.write hw hlen hkept .mobileMoica (hsession consumed rfl σ hσ)

/-- The assertion is taken: the person is sighted anew. -/
theorem Desk.Sighted.callbackConsume (M : Primitives) (cfg : Config) (env : CallEnv)
    (assertion : ProviderAssertion) :
    d.Advanced ((Call.callbackConsume assertion).next M cfg env d) := by
  obtain ⟨hkept, -⟩ := SessionStore.all_consumeAuthState (fun _ ha => ha) hd.tw
    assertion.state assertion.replayID env.now env.writes
  simp only [Call.next]
  split
  · rename_i e t heq
    rw [heq] at hkept
    exact hd.write hw hlen hkept .tw trivial
  · rename_i session t heq
    rw [heq] at hkept
    exact hd.write hw hlen hkept .tw (d.valid_sight _ (computeAll_ne _ _ _ _))

/-- The verified session is consumed and its person handed over to the issuer. -/
theorem Desk.Sighted.issueConsume (M : Primitives) (cfg : Config) (env : CallEnv) (flow : Flow)
    (did email offerID : String) :
    d.Advanced ((Call.issueConsume flow did email offerID).next M cfg env d) := by
  obtain ⟨hkept, hsession⟩ := SessionStore.all_consumeVerifiedSession (fun _ hv => hv)
    (hd.sessions flow) offerID env.now env.writes
  simp only [Call.next]
  split
  · rename_i t heq
    rw [heq] at hkept
    exact hd.write hw hlen hkept flow trivial
  · rename_i e t _ heq
    rw [heq] at hkept
    exact hd.write hw hlen hkept flow trivial
  rename_i session t heq
  rw [heq] at hkept hsession
  split
  · exact hd.write hw hlen hkept flow trivial
  refine Desk.Advanced.of_setSessions t flow ?_
  have hsighted := hd.setSessions hkept flow
  cases flow with
  | mobileMoica => exact hsighted.handOver hw hlen (hsession session rfl)
  | tw => exact hsighted.handOver hw hlen (hsession session rfl)

/-- **What one step of a handler keeps.**  A handler carries what its lookups have seen from step to
step, in its call or in the session that it leaves behind. -/
theorem Desk.Sighted.next (M : Primitives) (cfg : Config) (env : CallEnv) {call : Call}
    (h : call.Sighted d.store) : d.Advanced (call.next M cfg env d) := by
  have hs := hw.store.consistent
  cases call with
  | startLookup todo session => exact hd.startLookup hw hlen M cfg env h
  | startBroker session =>
    simp only [Call.next]
    split
    · exact hd.onward hw hlen trivial
    · exact hd.onward hw hlen h
  | startSave flow session =>
    have hkept := SessionStore.all_createAuthSession (hd.sessions flow) h env.writes
    simp only [Call.next]
    split <;> (rename_i heq; rw [heq] at hkept; exact hd.write hw hlen hkept flow trivial)
  | statusVerified offerID | statusSession offerID | statusBroker session =>
    -- nothing is written, and what was seen is not needed yet
    simp only [Call.next]
    split <;> exact hd.onward hw hlen trivial
  | statusConsume state replayID expiresAt =>
    exact hd.statusConsume hw hlen M cfg env state replayID expiresAt
  | statusSave session =>
    have hkept := SessionStore.all_storeVerifiedSession hd.mobileMoica h env.writes
    simp only [Call.next]
    split <;> (rename_i heq; rw [heq] at hkept; exact hd.write hw hlen hkept .mobileMoica trivial)
  | callbackConsume assertion => exact hd.callbackConsume hw hlen M cfg env assertion
  | callbackLookup todo session =>
    exact hd.onward hw hlen (sighted_lookUp hs h (fun _ hvalid => hvalid) fun hvalid => hvalid)
  | callbackSave session =>
    have hkept := SessionStore.all_storeVerifiedSession hd.tw h env.writes
    simp only [Call.next]
    split <;> (rename_i heq; rw [heq] at hkept; exact hd.write hw hlen hkept .tw trivial)
  | issueConsume flow did email offerID =>
    exact hd.issueConsume hw hlen M cfg env flow did email offerID
  | passportLookup todo did stored number over18 σ =>
    cases todo with
    | nil => exact hd.handOver hw hlen h
    | cons c todo =>
      exact hd.onward hw hlen (sighted_lookUp hs h (fun _ hvalid => hvalid) fun _ => trivial)
  | issuing q => exact hd.onward hw hlen trivial
  | replied reply => exact hd.onward hw hlen trivial
  | cut => exact hd.onward hw hlen trivial

end Advanced

/-! ### The steps of the store -/

namespace Store

theorem file_of_saveLocked {s s' : Store} {writes : Bool} (hfile : s.file.isSome)
    (h : s.saveLocked writes = some s') : s'.file.isSome := by
  unfold saveLocked at h
  split at h
  · rename_i hnone
    rw [hnone] at hfile
    cases hfile
  · split at h
    · cases h
      rfl
    · cases h

theorem file_removeLocked (s : Store) (id : String) : (s.removeLocked id).file = s.file := by
  unfold removeLocked
  split <;> rfl

theorem file_add {s : Store} (hfile : s.file.isSome) (r : Record) (writes : Bool) :
    (s.add r writes).2.file.isSome := by
  unfold add
  split
  · rename_i s' hsave
    exact file_of_saveLocked (s := s.indexLocked r) hfile hsave
  · rw [file_removeLocked]
    exact hfile

theorem file_revoke {s : Store} (hfile : s.file.isSome) (id : String) (writes : Bool) :
    (s.revoke id writes).2.file.isSome := by
  unfold revoke
  split
  · exact hfile
  · rename_i p r _
    split
    · exact hfile
    split
    · rename_i s' hsave
      exact file_of_saveLocked (s := s.retire p r) hfile hsave
    · exact hfile

theorem file_newFileStore {file : Option (List Record)} {s : Store}
    (h : newFileStore file = some s) : s.file.isSome := by
  have hfold : ∀ (rs : List Record) (t : Store), (rs.foldl indexLocked t).file = t.file := by
    intro rs
    induction rs with
    | nil => exact fun t => rfl
    | cons r rs ih => exact fun t => ih (t.indexLocked r)
  cases file with
  | none =>
    cases h
    rfl
  | some rs =>
    simp only [newFileStore, load] at h
    split at h
    · cases h
    · cases h
      rw [hfold]
      rfl

theorem Sound.succeeds_reload {s s' : Store} (hs : s.Sound) {file : List Record}
    (hfile : s.file = some file) (h : newFileStore (some file) = some s') : Succeeds s s' := by
  obtain ⟨hmem, hpair⟩ := hs.saved file hfile
  have hhas : ∀ r, s'.Has r ↔ s.Has r := by
    intro r
    rw [(sound_newFileStore (by rintro rs heq; exact Option.some.inj heq ▸ hpair) h).2 r, ← hmem r]
    simp
  exact ⟨fun r' hr' _ => .inl ((hhas r').1 hr'), fun r hr => ⟨r, (hhas r).2 hr, rfl⟩⟩

end Store

theorem file_next {issuerURL : String} {env : Env} {s : Store} (hfile : s.file.isSome) (pc : Pc) :
    (pc.next issuerURL env s).2.file.isSome := by
  unfold Pc.next
  split
  · exact hfile
  · split
    · exact hfile
    split <;> exact hfile
  · split <;> exact hfile
  · exact hfile
  · rename_i draft drafts
    have hadd := Store.file_add hfile (draft.record (credentialID issuerURL env.credHex)) env.writes
    split
    · split
      · rename_i s' heq
        rwa [heq] at hadd
      · rename_i e s' heq
        rwa [heq] at hadd
    · exact hfile
  · exact hfile
  · exact hfile

/-- **What one undisturbed step does to the records of a store with a file**: those that it
makes active are new, and none is forgotten. -/
theorem Watched.Sound.succeeds_watch {issuerURL : String} {w : Watched} (hw : w.Sound)
    (hfile : w.issuer.store.file.isSome) {e : Event} (he : Undisturbed issuerURL w e) :
    Succeeds w.issuer.store (Vc.watch issuerURL w e).issuer.store ∧
      (Vc.watch issuerURL w e).issuer.store.file.isSome := by
  cases e with
  | request r => exact ⟨.refl _, hfile⟩
  | run q env =>
    simp only [Vc.watch, Vc.step]
    cases hq : w.issuer.requests[q]? with
    | none => exact ⟨.refl _, hfile⟩
    | some pc => exact ⟨(hw.advanced he hq).succeeds, file_next hfile pc⟩
  | revoke id writes =>
    exact ⟨hw.store.succeeds_revoke id writes, Store.file_revoke hfile id writes⟩
  | restart =>
    obtain ⟨file, heq⟩ := Option.isSome_iff_exists.1 hfile
    simp only [Vc.watch, Vc.step, heq]
    cases hload : newFileStore (some file) with
    | none => exact ⟨.refl _, hfile⟩
    | some s' => exact ⟨hw.store.succeeds_reload heq hload, Store.file_newFileStore hload⟩

theorem length_requests_watch {issuerURL : String} {w : Watched} {e : Event}
    (he : ∀ r, e ≠ .request r) :
    (watch issuerURL w e).issuer.requests.length = w.issuer.requests.length := by
  cases e with
  | request r => exact absurd rfl (he r)
  | run q env =>
    simp only [watch, Vc.step]
    split
    · rfl
    · exact List.length_set ..
  | revoke id writes => rfl
  | restart =>
    simp only [watch, Vc.step]
    split
    · exact List.length_map ..
    split
    · rfl
    · exact List.length_map ..

/-! ### Between the steps of a run -/

/-- What holds between the steps of a run. -/
structure Desk.Sound (d : Desk) : Prop where
  watched : d.watched.Sound
  file : d.store.file.isSome
  sighted : d.Sighted d.store
  length : d.sightings.length = d.watched.issuer.requests.length
  /-- The humanity credentials are credentials of the store. -/
  bound : ∀ id person, d.bound id = some person → ∃ r, d.store.Has r ∧ r.credentialID = id
  one : d.OneEach

namespace Desk

variable {d : Desk}

theorem Sound.oneEach_of_succeeds (hd : d.Sound) {d' : Desk} (hss : Succeeds d.store d'.store)
    (hbound : d'.bound = d.bound) : d'.OneEach := by
  intro r r' person hr hr' hact hact' hperson hperson'
  rw [hbound] at hperson hperson'
  exact hd.one r r' person (hss.active_of_known hr hact (hd.bound _ _ hperson))
    (hss.active_of_known hr' hact' (hd.bound _ _ hperson')) hact hact' hperson hperson'

theorem Sound.bound_of_succeeds (hd : d.Sound) {s' : Store} (hss : Succeeds d.store s')
    {id : String} {person : Person} (h : d.bound id = some person) :
    ∃ r, s'.Has r ∧ r.credentialID = id := by
  obtain ⟨r, hr, rfl⟩ := hd.bound id person h
  exact hss.kept r hr

/-- A step of the issuer adds a humanity credential, or makes none. -/
theorem bind_cases (q : ℕ) (env : Env) : d.bind cfg q env = d.bound ∨
    ∃ draft rest σ, d.watched.issuer.requests[q]? = some (.adding (draft :: rest)) ∧
      d.sightings[q]? = some σ ∧ draft.nationalIDHash ≠ "" ∧ env.signs = true ∧
      (d.store.add (draft.record (credentialID cfg.issuerURL env.credHex)) env.writes).1 = .ok () ∧
      d.bind cfg q env =
        Function.update d.bound (credentialID cfg.issuerURL env.credHex) (some σ.person) := by
  unfold bind
  split
  · rename_i draft rest σ hq hσ
    dsimp only
    split
    · rename_i h
      exact .inr ⟨draft, rest, σ, hq, hσ, h.1, h.2.1, h.2.2, rfl⟩
    · exact .inl rfl
  · exact .inl rfl

variable {q : ℕ} {env : Env} {draft : Draft} {rest : List Draft}

/-- The store once a credential has been signed and added. -/
theorem store_run_adding (hq : d.watched.issuer.requests[q]? = some (.adding (draft :: rest)))
    (hsigns : env.signs = true) :
    (watch cfg.issuerURL d.watched (.run q env)).issuer.store =
      (d.store.add (draft.record (credentialID cfg.issuerURL env.credHex)) env.writes).2 := by
  simp only [watch, Vc.step, hq, Pc.next, hsigns, if_true, store]
  cases d.watched.issuer.store.add (draft.record (credentialID cfg.issuerURL env.credHex))
    env.writes with
  | mk result s' => cases result <;> rfl

/-- **A ceremony in time adds its credential only if the person has no other.** -/
theorem Sound.none_active (hd : d.Sound) (he : InTime cfg d (.run q env)) {σ : Sighting}
    (hq : d.watched.issuer.requests[q]? = some (.adding (draft :: rest)))
    (hσ : d.sightings[q]? = some σ) (hne : draft.nationalIDHash ≠ "") (hsigns : env.signs = true)
    {r : Record} (hr : d.store.Has r) (hact : r.status = .active) :
    d.bound r.credentialID ≠ some σ.person := by
  intro hperson
  by_cases hsame : r.nationalIDHash = draft.nationalIDHash
  · -- the commitment that the request stores was looked up by the issuer
    have hkey : (draft.record (credentialID cfg.issuerURL env.credHex)).SharesKey r :=
      ⟨draft.nationalIDHash, .inr (.inl ⟨Record.key_eq_some.2 ⟨rfl, hne, rfl⟩,
        Record.key_eq_some.2 ⟨hact, hsame ▸ hne, hsame⟩⟩)⟩
    have hid := (he.1 draft rest hq hsigns r hr).2 hkey
    exact hd.watched.expects q _ hq draft List.mem_cons_self r hr hid hkey
  · -- the others were looked up by the handler
    obtain ⟨hid, hmem⟩ := he.2 _ hq σ hσ hne r (Store.mem_records.2 hr) hact hperson hsame
    have hvalid := hd.sighted.sightings σ (List.mem_of_getElem? hσ)
    exact absurd (hvalid.shows r hr hact hid hmem) List.not_mem_nil

/-- What the add of a humanity credential leaves: the new one is its person's, and the others
are whose they were. -/
theorem Sound.humanity_added (hd : d.Sound) (he : InTime cfg d (.run q env)) {σ : Sighting}
    (hq : d.watched.issuer.requests[q]? = some (.adding (draft :: rest)))
    (hsigns : env.signs = true)
    (hadd : (d.store.add (draft.record (credentialID cfg.issuerURL env.credHex)) env.writes).1 =
      .ok ())
    (hbind : d.bind cfg q env =
      Function.update d.bound (credentialID cfg.issuerURL env.credHex) (some σ.person)) :
    ∀ r, (d.step M cfg (.run q env)).store.Has r ↔
      (r = draft.record (credentialID cfg.issuerURL env.credHex) ∧
        d.bind cfg q env r.credentialID = some σ.person) ∨
      (d.store.Has r ∧ d.bind cfg q env r.credentialID = d.bound r.credentialID) := by
  have hfree := he.1 draft rest hq hsigns
  have hadm := (hd.watched.expects q _ hq).admits hfree
  obtain ⟨-, hhas⟩ := hd.watched.store.add hadm env.writes
  intro r
  have hstore : (d.step M cfg (.run q env)).store = _ := store_run_adding hq hsigns
  rw [hstore, hbind]
  refine (hhas r).trans ⟨?_, ?_⟩
  · rintro (hr | ⟨-, rfl⟩)
    · exact .inr ⟨hr, Function.update_of_ne (hfree r hr).1 ..⟩
    · exact .inl ⟨rfl, Function.update_self ..⟩
  · rintro (⟨rfl, -⟩ | ⟨hr, -⟩)
    · exact .inr ⟨hadd, rfl⟩
    · exact .inl hr

theorem Sound.run (hd : d.Sound) (he : InTime cfg d (.run q env)) :
    (d.step M cfg (.run q env)).Sound := by
  obtain ⟨hss, hfile⟩ := hd.watched.succeeds_watch hd.file he.1
  have hsighted := hd.sighted.succeeds hss
  have hlen : d.sightings.length =
      (watch cfg.issuerURL d.watched (.run q env)).issuer.requests.length := by
    rw [length_requests_watch (by simp), hd.length]
  refine ⟨hd.watched.watch he.1, hfile,
    ⟨hsighted.mobileMoica, hsighted.tw, hsighted.calls, hsighted.sightings⟩, hlen, ?_, ?_⟩
  · rcases bind_cases q env with hsame | ⟨draft, rest, σ, hq, -, -, hsigns, hadd, hbind⟩
    · intro id person hid
      exact hd.bound_of_succeeds hss (hsame ▸ hid : d.bound id = some person)
    · have hhas := hd.humanity_added (M := M) he hq hsigns hadd hbind
      intro id person hid
      by_cases hnew : id = credentialID cfg.issuerURL env.credHex
      · subst hnew
        refine ⟨_, (hhas _).2 (.inl ⟨rfl, ?_⟩), rfl⟩
        rw [hbind]
        exact Function.update_self ..
      · have hold : d.bind cfg q env id = some person := hid
        rw [hbind, Function.update_of_ne hnew] at hold
        exact hd.bound_of_succeeds hss hold
  · rcases bind_cases q env with hsame | ⟨draft, rest, σ, hq, hσ, hne, hsigns, hadd, hbind⟩
    · exact hd.oneEach_of_succeeds hss hsame
    · have hhas := hd.humanity_added (M := M) he hq hsigns hadd hbind
      have hnone : ∀ r, d.store.Has r → r.status = .active →
          d.bound r.credentialID ≠ some σ.person :=
        fun r hr hact => hd.none_active he hq hσ hne hsigns hr hact
      intro r r' person hr hr' hact hact' hperson hperson'
      replace hperson : d.bind cfg q env r.credentialID = some person := hperson
      replace hperson' : d.bind cfg q env r'.credentialID = some person := hperson'
      rcases (hhas r).1 hr with ⟨rfl, hb⟩ | ⟨hr, hb⟩ <;>
        rcases (hhas r').1 hr' with ⟨rfl, hb'⟩ | ⟨hr', hb'⟩
      · rfl
      · rw [hb] at hperson
        rw [hb', ← hperson] at hperson'
        exact absurd hperson' (hnone r' hr' hact')
      · rw [hb'] at hperson'
        rw [hb, ← hperson'] at hperson
        exact absurd hperson (hnone r hr hact)
      · rw [hb] at hperson
        rw [hb'] at hperson'
        exact hd.one r r' person hr hr' hact hact' hperson hperson'

/-- A step of the watched store that adds no credential. -/
theorem Sound.quiet (hd : d.Sound) {e : Event} (he : Undisturbed cfg.issuerURL d.watched e)
    (hnew : ∀ r, e ≠ .request r) {d' : Desk}
      (hwatched : d'.watched = watch cfg.issuerURL d.watched e)
    (hsightings : d'.sightings = d.sightings) (hbound : d'.bound = d.bound)
    (hsighted : d.Sighted d'.store → d'.Sighted d'.store) : d'.Sound := by
  have hstore : d'.store = (watch cfg.issuerURL d.watched e).issuer.store := by rw [store, hwatched]
  obtain ⟨hss, hfile⟩ := hd.watched.succeeds_watch hd.file he
  rw [← hstore] at hss hfile
  refine ⟨hwatched ▸ hd.watched.watch he, hfile, hsighted (hd.sighted.succeeds hss), ?_, ?_,
    hd.oneEach_of_succeeds hss hbound⟩
  · rw [hwatched, hsightings, length_requests_watch hnew, hd.length]
  · intro id person hid
    exact hd.bound_of_succeeds hss (hbound ▸ hid)

/-- **What one step keeps.** -/
theorem Sound.step (hd : d.Sound) {e : DeskEvent} (he : InTime cfg d e) :
    (d.step M cfg e).Sound := by
  cases e with
  | call r env =>
    refine ⟨hd.watched, hd.file, { hd.sighted with calls := ?_ }, hd.length, hd.bound, hd.one⟩
    intro call hcall
    rcases List.mem_append.1 hcall with hold | hnew
    · exact hd.sighted.calls call hold
    · rw [List.mem_singleton] at hnew
      exact hnew ▸ sighted_begin env d r
  | next i env =>
    cases hi : d.calls[i]? with
    | none =>
      simp only [Desk.step, hi]
      exact hd
    | some call =>
      simp only [Desk.step, hi]
      have hcall := hd.sighted.calls call (List.mem_of_getElem? hi)
      obtain ⟨hcall', hsighted, hwatched, hstore, hlen, hbound⟩ :=
        hd.sighted.next hd.watched hd.length M cfg env hcall
      generalize call.next M cfg env d = out at *
      have hss : Succeeds d.store out.2.store := hstore ▸ .refl d.store
      refine ⟨hwatched, ?_, ?_, hlen, ?_, hd.oneEach_of_succeeds hss hbound⟩
      · exact (congrArg (·.file.isSome) hstore).trans hd.file
      · have hsame := hsighted.succeeds hss
        refine ⟨hsame.mobileMoica, hsame.tw, ?_, hsame.sightings⟩
        intro c hc
        rcases List.mem_or_eq_of_mem_set hc with hold | rfl
        · exact hsame.calls c hold
        · exact hcall'.succeeds hss
      · intro id person hid
        exact hd.bound_of_succeeds hss (hbound ▸ hid : d.bound id = some person)
  | run q env => exact hd.run he
  | revoke id writes =>
    refine hd.quiet (e := .revoke id writes) trivial (by simp) rfl rfl rfl fun h => ?_
    exact ⟨h.mobileMoica, h.tw, h.calls, h.sightings⟩
  | restart peppers cutoff writes =>
    refine hd.quiet (e := .restart) trivial (by simp) rfl rfl rfl fun h => ?_
    refine ⟨SessionStore.all_reload h.mobileMoica cutoff writes,
      SessionStore.all_reload h.tw cutoff writes, ?_, h.sightings⟩
    intro call hcall
    obtain ⟨call, -, rfl⟩ := List.mem_map.1 hcall
    cases call <;> trivial

end Desk

/-! ### One humanity credential per person -/

/-- The issuer at its start, with the peppers of its configuration. -/
def openDesk (store : Store) (peppers : PepperSet) : Desk := { watched := start store, peppers }

theorem sound_openDesk {store : Store} (hstore : newFileStore none = some store)
    (peppers : PepperSet) : (openDesk store peppers).Sound := by
  obtain ⟨hsound, hhas⟩ := sound_newFileStore (by simp) hstore
  have hall : ∀ s, ({} : SessionStore).All (AuthSession.Sighted s) (VerifiedSession.Sighted s) := by
    intro s
    refine ⟨⟨?_, ?_⟩, ⟨?_, ?_⟩⟩ <;> exact fun _ _ h => nomatch h
  refine ⟨sound_start hsound, Store.file_newFileStore hstore, ⟨hall _, hall _, ?_, ?_⟩, rfl, ?_, ?_⟩
  · exact fun _ h => nomatch h
  · exact fun _ h => nomatch h
  · exact fun _ _ h => nomatch h
  · exact fun _ _ _ _ _ _ _ h => nomatch h

/-- **One humanity credential per person**: in a run in which no ceremony of a person is
overtaken by another, at most one humanity credential of the person is unrevoked at every
time, in whatever order the steps of the ceremonies come and whenever the peppers are
rotated. -/
theorem one_humanity_credential {store : Store} (hstore : newFileStore none = some store)
    {peppers : PepperSet} {es : List DeskEvent}
    (h : Along (Desk.step M cfg) (InTime cfg) (openDesk store peppers) es) :
    ∀ pre, pre <+: es → (exec (Desk.step M cfg) (openDesk store peppers) pre).OneEach := by
  rintro pre ⟨post, rfl⟩
  have hpre := (along_append.1 h).1
  exact (hpre.invariant (fun _ _ hd he => hd.step he) (sound_openDesk hstore peppers)).one

/-- Hash functions that can be evaluated. -/
def toyPrimitives : Primitives where
  sha256 := List.reverse
  hmac key message := key ++ "/" ++ message
  hmac_ne := by
    intro key message h
    have hlen : (key ++ "/" ++ message).length = 0 := by rw [h]; rfl
    simp only [String.length_append] at hlen
    have hslash : "/".length = 1 := rfl
    omega

def toyConfig : Config := ⟨"https://issuer", 600, 600⟩

/-- A person opens a session with Mobile MOICA under the pepper `p1`. -/
def toyStart (i : ℕ) (offerID state : String) : List DeskEvent :=
  .call (.mobileMoicaStart "did:web:a" "A123456789" "v1" "c1")
      { now := 0, offerID := some offerID, state := some state } ::
    List.replicate 4 (.next i { now := 0, brokerStart := .ok 600 })

/-- The person enrols with a passport. -/
def toyPassport (i q : ℕ) (credHex : String) : List DeskEvent :=
  .call (.passportIssue "did:web:b" "TWN" true
      (.ok ⟨"", twPersonBindingInput toyPrimitives "A123456789", "passport-number-0", "TWN", false⟩)
      true) { now := 1 } ::
    List.replicate 5 (.next i { now := 1 }) ++ List.replicate 2 (.run q { credHex })

/-- The session with Mobile MOICA is verified, and its credential issued. -/
def toyFinish (i q : ℕ) (offerID credHex : String) : List DeskEvent :=
  .call (.mobileMoicaStatus offerID) { now := 2 } ::
    List.replicate 5 (.next i { now := 2, brokerVerify := .verified "r0" none }) ++
    .call (.issue .mobileMoica "did:web:a" "" offerID) { now := 3 } ::
    .next (i + 1) { now := 3 } :: List.replicate 3 (.run q { credHex })

/-- The pepper is rotated while a session is open; the person enrols with a passport once the
credential of the session has been revoked, and not before. -/
def toyInTime : List DeskEvent :=
  toyStart 0 "o0" "s0" ++ [.restart ⟨"p2", ["p1"]⟩ (-1) true] ++ toyFinish 1 0 "o0" "00" ++
    toyPassport 3 1 "01" ++ [.revoke "https://issuer/vc/00" true] ++ toyPassport 4 1 "01"

theorem one_humanity_credential_toy :
    (exec (Desk.step toyPrimitives toyConfig) (openDesk { file := some [] } ⟨"p1", []⟩)
      toyInTime).OneEach :=
  one_humanity_credential rfl (by decide +kernel) toyInTime List.prefix_rfl

/-- The passport is issued while the session is open, under a pepper that the session does
not know. -/
def toyOvertaken : List DeskEvent :=
  toyStart 0 "o0" "s0" ++ [.restart ⟨"p2", ["p1"]⟩ (-1) true] ++ toyPassport 1 0 "00" ++
    toyFinish 2 1 "o0" "01"

theorem compute_toy_injective (pepper context : String) :
    Function.Injective fun value => compute toyPrimitives pepper value context := by
  intro v v' h
  simpa [compute, toyPrimitives] using h

/-- **The overtaken session issues a second humanity credential** to the person. -/
theorem overtaken_two_humanity :
    (∀ pepper context,
      Function.Injective fun value => compute toyPrimitives pepper value context) ∧
    ¬ (exec (Desk.step toyPrimitives toyConfig) (openDesk { file := some [] } ⟨"p1", []⟩)
      toyOvertaken).OneEach := by
  refine ⟨compute_toy_injective, fun h => ?_⟩
  obtain ⟨r, hr, hrow⟩ := Option.map_eq_some_iff.1 (show ((exec (Desk.step toyPrimitives toyConfig)
      (openDesk { file := some [] } ⟨"p1", []⟩) toyOvertaken).store.heap[0]?).map
        (fun r => (r.credentialID, r.status)) = some ("https://issuer/vc/00", .active) by
    decide +kernel)
  obtain ⟨r', hr', hrow'⟩ :=
    Option.map_eq_some_iff.1 (show ((exec (Desk.step toyPrimitives toyConfig)
      (openDesk { file := some [] } ⟨"p1", []⟩) toyOvertaken).store.heap[1]?).map
        (fun r => (r.credentialID, r.status)) = some ("https://issuer/vc/01", .active) by
    decide +kernel)
  obtain ⟨person, hperson⟩ := Option.isSome_iff_exists.1 (show ((exec (Desk.step toyPrimitives
      toyConfig) (openDesk { file := some [] } ⟨"p1", []⟩) toyOvertaken).bound
        "https://issuer/vc/00").isSome by decide +kernel)
  have hsame : (exec (Desk.step toyPrimitives toyConfig) (openDesk { file := some [] } ⟨"p1", []⟩)
      toyOvertaken).bound "https://issuer/vc/00" = (exec (Desk.step toyPrimitives toyConfig)
        (openDesk { file := some [] } ⟨"p1", []⟩) toyOvertaken).bound "https://issuer/vc/01" := by
    decide +kernel
  have hids : (exec (Desk.step toyPrimitives toyConfig) (openDesk { file := some [] } ⟨"p1", []⟩)
      toyOvertaken).store.byID "https://issuer/vc/00" = some 0 ∧
      (exec (Desk.step toyPrimitives toyConfig) (openDesk { file := some [] } ⟨"p1", []⟩)
        toyOvertaken).store.byID "https://issuer/vc/01" = some 1 := by
    decide +kernel
  generalize exec (Desk.step toyPrimitives toyConfig) (openDesk { file := some [] } ⟨"p1", []⟩)
    toyOvertaken = d at *
  obtain ⟨hid, hact⟩ := Prod.mk.inj hrow
  obtain ⟨hid', hact'⟩ := Prod.mk.inj hrow'
  have heq := h r r' person ⟨0, hr, by rw [hid]; exact hids.1⟩ ⟨1, hr', by rw [hid']; exact hids.2⟩
    hact hact' (by rw [hid]; exact hperson) (by rw [hid', ← hsame]; exact hperson)
  rw [heq, hid'] at hid
  exact absurd hid (by decide)

end Ansible.Vc
