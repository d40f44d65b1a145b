import Ansible.Relay.AnchorSubmit

/-!
# What promotion and veto do to the rows

Apart from its state a row never changes.  Promotion and veto change the state of the
row they are keyed on, promotion also that of the active row of the same DID.

## Main results

* `mem_updateKey` — the rows after an update keyed on one row.
* `promoteOne_spec` — a promotion activates its row and supersedes the active one.
* `doVeto_spec` — a veto marks its row and freezes the DID.
-/

namespace Ansible

/-- A row apart from its state. -/
def IdentityAnchor.content (a : IdentityAnchor) : IdentityAnchor :=
  { a with state := .pending, graceUntil := none }

namespace AnchorStore

@[simp] theorem content_withState (st : AnchorState) (a : IdentityAnchor) :
    (a.withState st).content = a.content := rfl

@[simp] theorem content_settle (st : AnchorState) (a : IdentityAnchor) :
    (a.settle st).content = a.content := rfl

variable {b x r : IdentityAnchor} {t : AnchorTable} {f : IdentityAnchor → IdentityAnchor}
  {s : Relay}

theorem content_did {a : IdentityAnchor} (h : a.content = b.content) : a.did = b.did :=
  (congrArg IdentityAnchor.did h :)

theorem content_anchorCid {a : IdentityAnchor} (h : a.content = b.content) :
    a.anchorCid = b.anchorCid := (congrArg IdentityAnchor.anchorCid h :)

theorem content_prev {a : IdentityAnchor} (h : a.content = b.content) :
    a.prevAnchorCid = b.prevAnchorCid := (congrArg IdentityAnchor.prevAnchorCid h :)

theorem eq_of_content {a : IdentityAnchor} (ha : a ∈ t.rows) (hb : b ∈ t.rows)
    (h : a.content = b.content) : a = b :=
  t.eq_of_key ha hb (content_did h) (content_anchorCid h)

/-- The rows kept their contents and no content is new. -/
structure Evolved (rows rows' : List IdentityAnchor) : Prop where
  kept : ∀ a ∈ rows, ∃ a' ∈ rows', a'.content = a.content
  old : ∀ a' ∈ rows', ∃ a ∈ rows, a'.content = a.content

theorem Evolved.refl (rows : List IdentityAnchor) : Evolved rows rows :=
  ⟨fun a ha => ⟨a, ha, rfl⟩, fun a ha => ⟨a, ha, rfl⟩⟩

theorem Evolved.trans {r₁ r₂ r₃ : List IdentityAnchor} (h : Evolved r₁ r₂) (h' : Evolved r₂ r₃) :
    Evolved r₁ r₃ where
  kept a ha := by
    obtain ⟨b, hb, hba⟩ := h.kept a ha
    obtain ⟨c, hc, hcb⟩ := h'.kept b hb
    exact ⟨c, hc, hcb.trans hba⟩
  old c hc := by
    obtain ⟨b, hb, hcb⟩ := h'.old c hc
    obtain ⟨a, ha, hba⟩ := h.old b hb
    exact ⟨a, ha, hcb.trans hba⟩

theorem evolved_map (hf : ∀ a, (f a).content = a.content) (rows : List IdentityAnchor) :
    Evolved rows (rows.map f) where
  kept a ha := ⟨f a, List.mem_map_of_mem ha, hf a⟩
  old a' ha' := by
    obtain ⟨a, ha, rfl⟩ := List.mem_map.1 ha'
    exact ⟨a, ha, hf a⟩

theorem evolved_superseding (did cid : String) (rows : List IdentityAnchor) :
    Evolved rows (superseding did cid rows) :=
  evolved_map (fun a => by split <;> rfl) rows

theorem evolved_update {t' : AnchorTable} {p : IdentityAnchor → Bool} (h : t.update p f = some t')
    (hf : ∀ a, (f a).content = a.content) : Evolved t.rows t'.rows := by
  rw [Table.rows_of_commit h]
  refine evolved_map (fun a => ?_) _
  split
  · exact hf a
  · rfl

/-! ### Updates of one row -/

theorem hasKey_iff {a : IdentityAnchor} (ha : a ∈ t.rows) (hb : b ∈ t.rows) :
    b.hasKey a.did a.anchorCid = true ↔ b = a := by
  constructor
  · intro h
    simp only [IdentityAnchor.hasKey, Bool.and_eq_true, beq_iff_eq] at h
    exact t.eq_of_key hb ha h.1 h.2
  · rintro rfl
    simp [IdentityAnchor.hasKey]

theorem mem_map_of_iff {rows : List IdentityAnchor} {p : IdentityAnchor → Bool} {a : IdentityAnchor}
    (ha : a ∈ rows) (hp : ∀ b ∈ rows, p b = true ↔ b = a) :
    x ∈ rows.map (fun b => if p b then f b else b) ↔ x = f a ∨ (x ∈ rows ∧ x ≠ a) := by
  rw [List.mem_map]
  constructor
  · rintro ⟨b, hb, rfl⟩
    by_cases hba : b = a
    · subst hba
      rw [if_pos ((hp b hb).2 rfl)]
      exact .inl rfl
    · rw [if_neg (mt (hp b hb).1 hba)]
      exact .inr ⟨hb, hba⟩
  · rintro (rfl | ⟨hx, hxa⟩)
    · exact ⟨a, ha, by rw [if_pos ((hp a ha).2 rfl)]⟩
    · exact ⟨x, hx, by rw [if_neg (mt (hp x hx).1 hxa)]⟩

/-- The rows after an update keyed on the row `a`. -/
theorem mem_updateKey {a : IdentityAnchor} (ha : a ∈ t.rows) :
    x ∈ t.rows.map (fun b => if b.hasKey a.did a.anchorCid then f b else b)
      ↔ x = f a ∨ (x ∈ t.rows ∧ x ≠ a) :=
  mem_map_of_iff ha fun _ hb => hasKey_iff ha hb

theorem mem_superseding {prev : IdentityAnchor} (hprev : prev ∈ t.rows) :
    x ∈ superseding prev.did prev.anchorCid t.rows
      ↔ x = prev.withState .superseded ∨ (x ∈ t.rows ∧ x ≠ prev) :=
  mem_updateKey hprev

/-! ### One promotion -/

/-- A promotion changes nothing but the table and the caches, and no content. -/
theorem promoteOne_evolved (E : Env) (now : Time) (r : IdentityAnchor) (s : Relay) :
    SameGuards s (promoteOne E now r s) ∧
      Evolved s.identityAnchors.rows (promoteOne E now r s).identityAnchors.rows := by
  unfold promoteOne
  split
  · exact ⟨.refl s, .refl _⟩
  · next t row ht =>
    have hcore := syncCache_core E now row { s with identityAnchors := t }
    refine ⟨⟨hcore.freezes, hcore.migrations⟩, ?_⟩
    rw [hcore.anchors]
    simp only [promoteRow, Option.bind_eq_bind, Option.bind_eq_some_iff, Option.pure_def,
      Option.some.injEq, Prod.mk.injEq] at ht
    obtain ⟨t₁, ht₁, t₂, ht₂, _, -, rfl, -⟩ := ht
    exact (evolved_update ht₁ fun a => content_withState _ a).trans
      (evolved_update ht₂ fun a => content_settle _ a)

/-- **A promotion activates its row and supersedes the active one.**  It may also be
refused as a whole. -/
theorem promoteOne_spec (E : Env) (now : Time) {a : IdentityAnchor}
    (hr : r ∈ s.identityAnchors.rows) (hra : r ≠ a) (ha : s.activeAnchor r.did = some a) :
    promoteOne E now r s = s ∨ ∀ x, x ∈ (promoteOne E now r s).identityAnchors.rows ↔
      x = r.settle .active ∨ x = a.withState .superseded ∨
        (x ∈ s.identityAnchors.rows ∧ x ≠ r ∧ x ≠ a) := by
  unfold promoteOne
  split
  · exact .inl rfl
  · next t row ht =>
    refine .inr fun x => ?_
    rw [(syncCache_core E now row { s with identityAnchors := t }).anchors]
    simp only [promoteRow, Option.bind_eq_bind, Option.bind_eq_some_iff, Option.pure_def,
      Option.some.injEq, Prod.mk.injEq] at ht
    obtain ⟨t₁, ht₁, t₂, ht₂, _, -, rfl, -⟩ := ht
    obtain ⟨haR, hadid, hast⟩ := AnchorTable.activeAnchor_eq_some.1 ha
    -- the first update meets the active row alone, the second the promoted one
    have hsel : ∀ b ∈ s.identityAnchors.rows, (b.did == r.did && b.isActive) = true ↔ b = a := by
      intro b hb
      simp only [IdentityAnchor.isActive, Bool.and_eq_true, beq_iff_eq]
      constructor
      · rintro ⟨hbd, hbs⟩
        exact Option.some.inj
          ((AnchorTable.activeAnchor_eq_some.2 ⟨hb, hbd, hbs⟩).symm.trans ha)
      · rintro rfl
        exact ⟨hadid, hast⟩
    have h₁ : ∀ y, y ∈ t₁.rows ↔ y = a.withState .superseded ∨
        (y ∈ s.identityAnchors.rows ∧ y ≠ a) := by
      intro y
      rw [Table.rows_of_commit ht₁]
      exact mem_map_of_iff haR hsel
    have hr₁ : r ∈ t₁.rows := (h₁ r).2 (.inr ⟨hr, hra⟩)
    rw [show ({ s with identityAnchors := t₂ } : Relay).identityAnchors.rows
        = t₁.rows.map fun b => if b.hasKey r.did r.anchorCid then b.settle .active else b from
      Table.rows_of_commit ht₂, mem_updateKey hr₁, h₁]
    have hne : a.withState .superseded ≠ r := by
      intro h
      exact hra (eq_of_content hr haR ((congrArg IdentityAnchor.content h).symm))
    constructor
    · rintro (h | ⟨h | ⟨hx, hxa⟩, hxr⟩)
      · exact .inl h
      · exact .inr (.inl h)
      · exact .inr (.inr ⟨hx, hxr, hxa⟩)
    · rintro (h | rfl | ⟨hx, hxr, hxa⟩)
      · exact .inl h
      · exact .inr ⟨.inl rfl, hne⟩
      · exact .inr ⟨.inr ⟨hx, hxa⟩, hxr⟩

/-! ### The veto -/

/-- What a veto has read when its signature is accepted. -/
structure VetoRead (P : Platform) (did cid sig : String) (s : Relay) (r : IdentityAnchor) :
    Prop where
  notFrozen : s.frozen did = false
  mem : r ∈ s.identityAnchors.rows
  did_eq : r.did = did
  cid_eq : r.anchorCid = cid
  pending : r.state = .pending
  signed : vetoSigValid P did r.canonicalBody sig s = true

theorem readVeto_eq_ok {P : Platform} {did cid sig : String} (h : readVeto P did cid sig s = .ok r)
    : VetoRead P did cid sig s r := by
  unfold readVeto at h
  split at h
  · cases h
  next hfrozen =>
  split at h
  · cases h
  next pending hfind =>
  split at h
  · next hsig =>
    cases h
    have hp := Table.prop_of_find hfind
    simp only [IdentityAnchor.hasKey, Bool.and_eq_true, beq_iff_eq] at hp
    exact ⟨by simpa using hfrozen, Table.mem_of_find hfind, hp.1.1, hp.1.2, hp.2, hsig⟩
  · cases h

/-- **A veto marks its row and freezes the DID**; it may also be refused as a whole. -/
theorem doVeto_spec (hr : r ∈ s.identityAnchors.rows) :
    doVeto r s = s ∨ ((doVeto r s).frozen r.did = true ∧
      ∀ x, x ∈ (doVeto r s).identityAnchors.rows ↔
        x = r.settle .vetoed ∨ (x ∈ s.identityAnchors.rows ∧ x ≠ r)) := by
  unfold doVeto
  split
  · exact .inl rfl
  · next t ht =>
    refine .inr ⟨?_, fun x => ?_⟩
    · unfold Relay.frozen
      dsimp only
      split
      · next h => exact h
      · simp
    · rw [show ({ s with identityAnchors := t, accountFreezes := _ } : Relay).identityAnchors.rows
          = s.identityAnchors.rows.map fun b =>
            if b.hasKey r.did r.anchorCid then b.settle .vetoed else b from Table.rows_of_commit ht]
      exact mem_updateKey hr

theorem doVeto_evolved (r : IdentityAnchor) (s : Relay) :
    Evolved s.identityAnchors.rows (doVeto r s).identityAnchors.rows := by
  unfold doVeto
  split
  · exact .refl _
  · next t ht => exact evolved_update ht fun a => content_settle _ a

theorem doVeto_frozen {did : String} (h : s.frozen did = true) :
    (doVeto r s).frozen did = true := by
  unfold doVeto
  split
  · exact h
  · unfold Relay.frozen at *
    dsimp only
    split
    · exact h
    · rw [List.any_append, h, Bool.true_or]

end AnchorStore

end Ansible
