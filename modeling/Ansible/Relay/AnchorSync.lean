import Ansible.Relay.AnchorRows

/-!
# The caches after a submission and a promotion

A submission that activates its row and a promotion end with a refresh of the account
cache; a pending recovery only enters the table.  No call of the store touches the
verified identities.

## Main results

* `submit_written`, `promoteOne_written` — the states that the two calls leave.
* `submit_activeAnchor`, `promoteOne_activeAnchor` — the active anchors afterwards.
-/

namespace Ansible

namespace AnchorStore

/-! ### The refresh of the account cache -/

/-- The state in which the refresh writes the account of the row. -/
def synced (a : IdentityAnchor) (s : Relay) : Relay := (DidAccountCache.get a.did s).2

/-- The options of the write: the version that the account had is kept. -/
def syncOpts (a : IdentityAnchor) (s : Relay) : DidAccountCache.PutOpts where
  signingAlgorithm := a.identityKeyAlgorithm
  keyVersion := match (DidAccountCache.get a.did s).1 with
    | some entry => entry.keyVersion
    | none => 1

theorem syncCache_eq (E : Env) (now : Time) (a : IdentityAnchor) (s : Relay) :
    syncCache E now a s =
      (DidAccountCache.put E now a.did a.identityKey a.handle (syncOpts a s) (synced a s)).2 := by
  unfold syncCache syncOpts synced
  generalize DidAccountCache.get a.did s = r
  obtain ⟨_ | e, t⟩ := r <;> rfl

theorem syncCache_verified (E : Env) (now : Time) (a : IdentityAnchor) (s : Relay) :
    s.SameVerified (syncCache E now a s) := by
  rw [syncCache_eq]
  exact (DidAccountCache.get_verified a.did s).trans (DidAccountCache.put_verified ..)

/-! ### What a submission writes -/

/-- The state that a submission leaves: the one before it, one with a pending row, or one
with an active row and the account of that row refreshed. -/
inductive Written (E : Env) (now : Time) (s : Relay) : SubmitResult × Relay → Prop
  | refused (e : SubmitError) : Written E now s (.error e, s)
  | pending (row : IdentityAnchor) (t : AnchorTable) (hstate : row.state = .pending) :
    Written E now s (.ok row, { s with identityAnchors := t })
  | active (row : IdentityAnchor) (t : AnchorTable) (hstate : row.state = .active) :
    Written E now s (.ok row, syncCache E now row { s with identityAnchors := t })

theorem insertActive_written (E : Env) (now : Time) (anchor : Json) (did : String) (body : Text)
    (cid : String) (reason : Reason) (s : Relay) :
    Written E now s (insertActive E now anchor did body cid reason s) := by
  unfold insertActive
  split
  · exact .refused _
  next row hrow =>
  split
  · exact .refused _
  next t _ =>
  exact .active row t (anchorAttrs_eq_ok hrow).state_eq

theorem swapInActive_written (E : Env) (now : Time) (anchor : Json) (did : String) (body : Text)
    (cid : String) (reason : Reason) (prev : IdentityAnchor) (s : Relay) :
    Written E now s (swapInActive E now anchor did body cid reason prev s) := by
  unfold swapInActive
  split
  · exact .refused _
  next row hrow =>
  split
  · exact .refused _
  split
  · exact .refused _
  next t _ =>
  exact .active row t (anchorAttrs_eq_ok hrow).state_eq

theorem insertPendingRecovery_written (E : Env) (now : Time) (anchor : Json) (did : String)
    (body : Text) (cid : String) (proof : Json) (s : Relay) :
    Written E now s (insertPendingRecovery E now anchor did body cid proof s) := by
  unfold insertPendingRecovery
  dsimp only
  split
  · exact .refused _
  next row hrow =>
  split
  · exact .refused _
  next t _ =>
  exact .pending row t (anchorAttrs_eq_ok hrow).state_eq

theorem dispatch_written (E : Env) (now : Time) (reason : Reason) (anchor : Json) (did : String)
    (body : Text) (cid : String) (proof : Json) (authorized : Bool) (s : Relay) :
    Written E now s (dispatch E now reason anchor did body cid proof authorized s) := by
  cases reason with
  | initial =>
    rw [dispatch, dispatchInitial]
    repeat' split
    all_goals first | exact .refused _ | exact insertActive_written ..
  | rotation =>
    rw [dispatch, dispatchRotation]
    repeat' split
    all_goals first | exact .refused _ | exact swapInActive_written ..
  | deviceChange =>
    rw [dispatch, dispatchDeviceChange]
    repeat' split
    all_goals first | exact .refused _ | exact swapInActive_written ..
  | recovery =>
    rw [dispatch, dispatchRecovery]
    repeat' split
    all_goals first | exact .refused _ | exact insertPendingRecovery_written ..

/-- **What a submission leaves, caches included.** -/
theorem submit_written (E : Env) (now : Time) (anchor : Json) (opts : SubmitOpts) (s : Relay) :
    Written E now s (submit E now anchor opts s) := by
  unfold submit
  dsimp only
  split
  · exact .refused _
  split
  · exact .refused _
  split
  · exact .refused _
  split
  · exact .refused _
  split
  · exact .refused _
  exact dispatch_written ..

theorem submit_verified (E : Env) (now : Time) (anchor : Json) (opts : SubmitOpts) (s : Relay) :
    s.SameVerified (submit E now anchor opts s).2 := by
  have h := submit_written E now anchor opts s
  generalize submit E now anchor opts s = r at h ⊢
  cases h with
  | refused e => exact .refl s
  | pending row t => exact ⟨rfl, rfl⟩
  | active row t =>
    have hv := syncCache_verified E now row { s with identityAnchors := t }
    exact ⟨hv.verifiedDids, hv.verifiedDidCache⟩

/-- What a promotion leaves: the state before it, or the account of its row refreshed. -/
theorem promoteOne_written (E : Env) (now : Time) (r : IdentityAnchor) (s : Relay) :
    promoteOne E now r s = s ∨ ∃ t row, promoteRow r s.identityAnchors = some (t, row) ∧
      promoteOne E now r s = syncCache E now row { s with identityAnchors := t } := by
  unfold promoteOne
  split
  · exact .inl rfl
  · next t row ht => exact .inr ⟨t, row, ht, rfl⟩

theorem promoteOne_verified (E : Env) (now : Time) (r : IdentityAnchor) (s : Relay) :
    s.SameVerified (promoteOne E now r s) := by
  rcases promoteOne_written E now r s with h | ⟨t, row, -, h⟩
  · rw [h]
    exact .refl s
  · have hv := syncCache_verified E now row { s with identityAnchors := t }
    rw [h]
    exact ⟨hv.verifiedDids, hv.verifiedDidCache⟩

/-! ### The active anchors afterwards -/

/-- The row has become the active one of its DID; those of other DIDs are as they were. -/
structure Activates (t t' : AnchorTable) (row : IdentityAnchor) : Prop where
  self : t'.activeAnchor row.did = some row
  other : ∀ did, did ≠ row.did → t'.activeAnchor did = t.activeAnchor did

variable {t t' : AnchorTable} {did : String} {x row : IdentityAnchor}

theorem activeAnchor_congr (h : ∀ x, x.did = did → x.state = .active → (x ∈ t'.rows ↔ x ∈ t.rows)) :
    t'.activeAnchor did = t.activeAnchor did := by
  cases ht : t.activeAnchor did with
  | none =>
    rw [AnchorTable.activeAnchor_eq_none] at ht ⊢
    intro x hx hd hst
    exact ht x ((h x hd hst).1 hx) hd hst
  | some a =>
    rw [AnchorTable.activeAnchor_eq_some] at ht ⊢
    obtain ⟨ha, hd, hst⟩ := ht
    exact ⟨(h a hd hst).2 ha, hd, hst⟩

theorem mem_superseding_other {cid : String} (h : x.did ≠ did) :
    x ∈ superseding did cid t.rows ↔ x ∈ t.rows := by
  unfold superseding
  rw [List.mem_map]
  constructor
  · rintro ⟨a, ha, rfl⟩
    split at h
    · next hk =>
      simp only [IdentityAnchor.hasKey, Bool.and_eq_true, beq_iff_eq] at hk
      exact absurd hk.1 h
    · next hk =>
      rw [if_neg hk]
      exact ha
  · intro hx
    refine ⟨x, hx, if_neg ?_⟩
    simp [IdentityAnchor.hasKey, h]

theorem Entered.mem_other {P : Platform} {anchor : Json} {opts : SubmitOpts} {s : Relay}
    {rows : List IdentityAnchor} (h : Entered P anchor opts s row rows) (hx : x.did ≠ row.did) :
    x ∈ rows ↔ x ∈ s.identityAnchors.rows := by
  have happend : ∀ {l : List IdentityAnchor}, x ∈ l ++ [row] ↔ x ∈ l := by
    intro l
    rw [List.mem_append, List.mem_singleton]
    refine ⟨fun h => h.resolve_right ?_, .inl⟩
    rintro rfl
    exact hx rfl
  cases h with
  | initial => exact happend
  | rotation => rw [happend, mem_superseding_other hx]
  | deviceChange => rw [happend, mem_superseding_other hx]
  | recovery => exact happend

/-- An accepted row that is active has become the active anchor of its DID, one that is
pending has changed none. -/
theorem Entered.activeAnchor {P : Platform} {anchor : Json} {opts : SubmitOpts} {s : Relay}
    (h : Entered P anchor opts s row t.rows) :
    (row.state = .active ∧ Activates s.identityAnchors t row) ∨
      (row.state = .pending ∧ ∀ did, t.activeAnchor did = s.activeAnchor did) := by
  have hother := fun x => Entered.mem_other (x := x) h
  generalize hrows : t.rows = rows at h hother
  -- a row that is active stands among the rows, whichever way it entered
  have hactivates : row.state = .active → row ∈ rows → Activates s.identityAnchors t row :=
    fun hst hmem => ⟨AnchorTable.activeAnchor_eq_some.2 ⟨hrows ▸ hmem, rfl, hst⟩,
      fun did hdid => activeAnchor_congr fun x hxd _ => hrows ▸ hother x (hxd ▸ hdid)⟩
  cases h with
  | initial _ _ _ _ hst => exact .inl ⟨hst, hactivates hst (by simp)⟩
  | rotation _ _ _ _ _ hst => exact .inl ⟨hst, hactivates hst (by simp)⟩
  | deviceChange _ _ _ _ _ _ hst => exact .inl ⟨hst, hactivates hst (by simp)⟩
  | recovery _ _ _ _ _ hst =>
    refine .inr ⟨hst, fun did => activeAnchor_congr fun x _ hxst => ?_⟩
    rw [hrows, List.mem_append, List.mem_singleton]
    refine ⟨fun h => h.resolve_right ?_, .inl⟩
    rintro rfl
    rw [hst] at hxst
    cases hxst

variable (E : Env) (P : Platform) (now : Time)

/-- **The active anchors after a submission**: an accepted row that is active has become the
one of its DID, and nothing else changes. -/
theorem submit_activeAnchor (anchor : Json) (opts : SubmitOpts) (s : Relay) :
    (∀ did, (submit E now anchor opts s).2.activeAnchor did = s.activeAnchor did) ∨
      ∃ row, (submit E now anchor opts s).1 = .ok row ∧ row.state = .active ∧
        Activates s.identityAnchors (submit E now anchor opts s).2.identityAnchors row := by
  rcases submit_cases E now anchor opts s with ⟨_, -, hs⟩ | ⟨row, hok, -, -, -, hent⟩
  · exact .inl fun did => by rw [hs]
  · rcases hent.activeAnchor with ⟨hst, hact⟩ | ⟨-, hsame⟩
    · exact .inr ⟨row, hok, hst, hact⟩
    · exact .inl hsame

theorem mem_update_other {p : IdentityAnchor → Bool} {f : IdentityAnchor → IdentityAnchor}
    (h : t.update p f = some t') (hf : ∀ y, (f y).did = y.did) (hp : ∀ y, p y = true → y.did = did)
    (hx : x.did ≠ did) : x ∈ t'.rows ↔ x ∈ t.rows := by
  rw [Table.mem_update h]
  constructor
  · rintro ⟨y, hy, rfl⟩
    split at hx
    · next hpy => exact absurd ((hf y).trans (hp y hpy)) hx
    · next hpy => rwa [if_neg hpy]
  · intro hmem
    exact ⟨x, hmem, if_neg fun hpx => hx (hp x hpx)⟩

theorem mem_promoteRow_other {r : IdentityAnchor} (h : promoteRow r t = some (t', row))
    (hx : x.did ≠ r.did) : x ∈ t'.rows ↔ x ∈ t.rows := by
  simp only [promoteRow, Option.bind_eq_bind, Option.bind_eq_some_iff, Option.pure_def,
    Option.some.injEq, Prod.mk.injEq] at h
  obtain ⟨t₁, ht₁, t₂, ht₂, _, -, rfl, -⟩ := h
  rw [mem_update_other ht₂ (fun _ => rfl) (fun y hy => ?_) hx,
    mem_update_other ht₁ (fun _ => rfl) (fun y hy => ?_) hx]
  · simp only [Bool.and_eq_true, beq_iff_eq] at hy
    exact hy.1
  · simp only [IdentityAnchor.hasKey, Bool.and_eq_true, beq_iff_eq] at hy
    exact hy.1

theorem activates_of_promoteRow {r : IdentityAnchor} (h : promoteRow r t = some (t', row)) :
    row.did = r.did ∧ row.anchorCid = r.anchorCid ∧ row.state = .active ∧
      Activates t t' row := by
  have hother := fun x => mem_promoteRow_other (x := x) h
  simp only [promoteRow, Option.bind_eq_bind, Option.bind_eq_some_iff, Option.pure_def,
    Option.some.injEq, Prod.mk.injEq] at h
  obtain ⟨t₁, ht₁, t₂, ht₂, n, hn, rfl, rfl⟩ := h
  have hkey := Table.prop_of_find hn
  have hid : n.did = r.did ∧ n.anchorCid = r.anchorCid := by
    simpa [IdentityAnchor.hasKey] using hkey
  have hactive : n.state = .active := by
    obtain ⟨y, -, hy⟩ := (Table.mem_update ht₂).1 (Table.mem_of_find hn)
    split at hy
    · rw [← hy]
      rfl
    · next hk =>
      rw [hy] at hk
      exact absurd hkey hk
  refine ⟨hid.1, hid.2, hactive,
    AnchorTable.activeAnchor_eq_some.2 ⟨Table.mem_of_find hn, rfl, hactive⟩,
    fun did hdid => activeAnchor_congr fun x hxd _ => hother x ?_⟩
  rw [hxd, ← hid.1]
  exact hdid

theorem promoteOne_activeAnchor (r : IdentityAnchor) (s : Relay) :
    (∀ did, (promoteOne E now r s).activeAnchor did = s.activeAnchor did) ∨
      ∃ row, row.did = r.did ∧ row.anchorCid = r.anchorCid ∧
        Activates s.identityAnchors (promoteOne E now r s).identityAnchors row := by
  rcases promoteOne_written E now r s with h | ⟨t, row, ht, h⟩
  · exact .inl fun did => by rw [h]
  · obtain ⟨hdid, hcid, -, hact⟩ := activates_of_promoteRow ht
    refine .inr ⟨row, hdid, hcid, ?_⟩
    rw [h, (syncCache_core E now row { s with identityAnchors := t }).anchors]
    exact hact

theorem veto_activeAnchor (did cid sig : String) (s : Relay) (did' : String) :
    (veto P did cid sig s).2.activeAnchor did' = s.activeAnchor did' := by
  unfold veto
  split
  · rfl
  next r hr =>
  have hread := readVeto_eq_ok hr
  rcases doVeto_spec hread.mem with hs | ⟨-, hmem⟩
  · rw [hs]
  · refine activeAnchor_congr fun x _ hst => ?_
    rw [hmem]
    constructor
    · rintro (rfl | ⟨hx, -⟩)
      · cases hst
      · exact hx
    · intro hx
      refine .inr ⟨hx, ?_⟩
      rintro rfl
      rw [hread.pending] at hst
      cases hst

theorem veto_verified (did cid sig : String) (s : Relay) :
    s.SameVerified (veto P did cid sig s).2 := by
  unfold veto doVeto
  repeat' split
  all_goals exact ⟨rfl, rfl⟩

theorem veto_accounts (did cid sig : String) (s : Relay) :
    s.SameAccounts (veto P did cid sig s).2 := by
  unfold veto doVeto
  repeat' split
  all_goals exact ⟨rfl, rfl, rfl⟩

theorem veto_migrations (did cid sig : String) (s : Relay) :
    (veto P did cid sig s).2.didElixMigrations = s.didElixMigrations := by
  unfold veto doVeto
  repeat' split
  all_goals rfl

end AnchorStore

end Ansible
