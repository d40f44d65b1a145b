import Ansible.Relay.AnchorAuthority

/-!
# What a signed body says

A row is read back from the signed text that it keeps, and the text says everything that was
signed: two acceptable anchors with one text have the same fields, up to the defaults that the
text is written with.

## Main results

* `bodies_faithful` — **no row is read back with another text, and no text is that of two
  different anchors.**
-/

namespace Ansible

namespace AnchorStore

def deviceKeys : List String :=
  ["device_id", "device_key", "custody_class", "enrolled_at", "attestation_sig"]

/-- Two anchors agree on every field that is signed. -/
structure SameContent (a b : Json) : Prop where
  version : schemaVersion a = schemaVersion b
  copied : ∀ k ∈ copied, a.fetch k = b.fetch k
  algorithm : 3 ≤ schemaVersion a →
    a.fetch "identity_key_algorithm" = b.fetch "identity_key_algorithm"
  commitment : 4 ≤ schemaVersion a → ∀ k,
    ((a.fetch "genesis_commitment").fetch k).eqv ((b.fetch "genesis_commitment").fetch k) = true
  aliases : alsoKnownAs a = alsoKnownAs b
  devices : List.Forall₂ (fun d d' => ∀ k ∈ deviceKeys, d.fetch k = d'.fetch k) (devices a)
    (devices b)

theorem Genuine.canonicalBody_object {P : Platform} {a : Json} {row : IdentityAnchor}
    (h : Genuine P a row) : ∃ o, toObject row = some o ∧ canonicalBody o = row.canonicalBody := by
  refine ⟨_, h.toObject_eq, ?_⟩
  rw [canonicalBody, bodyObject_object, h.body]
  rfl

/-! ### The fields behind a body -/

theorem fetch_canonicalDevice {k : String} (hk : k ∈ deviceKeys) (d : Json) :
    (canonicalDevice d).fetch k = d.fetch k := by
  simp only [deviceKeys, List.mem_cons, List.not_mem_nil, or_false] at hk
  rcases hk with rfl | rfl | rfl | rfl | rfl <;> simp [canonicalDevice, Json.fetch, List.lookup]

theorem sameDevices {l m : List Json} (h : l.map canonicalDevice = m.map canonicalDevice) :
    List.Forall₂ (fun d d' => ∀ k ∈ deviceKeys, d.fetch k = d'.fetch k) l m := by
  induction l generalizing m with
  | nil =>
    cases m with
    | nil => exact .nil
    | cons d m => cases h
  | cons d l ih =>
    cases m with
    | nil => cases h
    | cons d' m =>
      obtain ⟨hd, hrest⟩ := List.cons.inj h
      refine .cons (fun k hk => ?_) (ih hrest)
      rw [← fetch_canonicalDevice hk d, ← fetch_canonicalDevice hk d', hd]

theorem fetch_of_valid {c : Json} (h : DidElix.validateV1Commitment c = true) {k : String}
    (hk : k ∉ ["method", "method_version", "genesis_key", "genesis_nonce"]) :
    c.fetch k = .null := by
  simp only [DidElix.validateV1Commitment, Bool.and_eq_true, List.all_eq_true] at h
  have honly := h.1.1.1.1.2.2
  cases c with
  | obj fields =>
    cases hlookup : fields.lookup k with
    | none => rw [Json.fetch, Json.get?, hlookup, Option.getD_none]
    | some v =>
      obtain ⟨l, m, rfl, -⟩ := List.lookup_eq_some_iff.1 hlookup
      refine absurd (List.contains_iff_mem.1 (honly k ?_)) hk
      simp [Json.keys]
  | _ => rfl

theorem eqv_of_eqv_int {v w : Json} {n : ℤ} (hv : v.eqv (.int n) = true)
    (hw : w.eqv (.int n) = true) : v.eqv w = true := by
  cases v with
  | int i =>
    cases w with
    | int j =>
      simp only [Json.eqv, beq_iff_eq] at hv hw ⊢
      rw [hv, hw]
    | float q =>
      simp only [Json.eqv, beq_iff_eq] at hv hw ⊢
      rw [hv, hw]
    | _ => cases hw
  | float p =>
    cases w with
    | int j =>
      simp only [Json.eqv, beq_iff_eq] at hv hw ⊢
      rw [hv, hw]
    | float q =>
      simp only [Json.eqv, beq_iff_eq] at hv hw ⊢
      rw [hv, hw]
    | _ => cases hw
  | _ => cases hv

/-- Valid commitments with one normative form have the same members. -/
theorem sameCommitment {c c' : Json} (h : DidElix.validateV1Commitment c = true)
    (h' : DidElix.validateV1Commitment c' = true)
    (heq : DidElix.canonicalCommitment c = DidElix.canonicalCommitment c') (k : String) :
    (c.fetch k).eqv (c'.fetch k) = true := by
  by_cases hk : k ∈ ["method", "method_version", "genesis_key", "genesis_nonce"]
  swap
  · rw [fetch_of_valid h hk, fetch_of_valid h' hk]
    rfl
  obtain ⟨key, nonce, hkey, -, hnonce, -⟩ := DidElix.fetch_of_validate h
  obtain ⟨key', nonce', hkey', -, hnonce', -⟩ := DidElix.fetch_of_validate h'
  rw [DidElix.canonicalCommitment, DidElix.canonicalCommitment, hkey, hkey', hnonce, hnonce'] at heq
  simp only [DidElix.validateV1Commitment, Bool.and_eq_true] at h h'
  have hkeys := Json.obj.inj heq
  simp only [List.cons.injEq, Prod.mk.injEq, true_and, and_true, Json.orElse] at hkeys
  simp only [List.mem_cons, List.not_mem_nil, or_false] at hk
  rcases hk with rfl | rfl | rfl | rfl
  · rw [Json.eqv_str_right.1 h.1.1.1.2, Json.eqv_str_right.1 h'.1.1.1.2]
    exact Json.eqv_str_right.2 rfl
  · exact eqv_of_eqv_int h.1.1.2 h'.1.1.2
  · rw [hkey, hkey', hkeys.1]
    exact Json.eqv_str_right.2 rfl
  · rw [hnonce, hnonce', hkeys.2]
    exact Json.eqv_str_right.2 rfl

theorem Genuine.sameContent {P : Platform} {a b : Json} {row row' : IdentityAnchor}
    (h : Genuine P a row) (h' : Genuine P b row') (heq : canonicalBody a = canonicalBody b) :
    SameContent a b := by
  have hbody : bodyObject a = bodyObject b := Json.encode_injective h.determined h'.determined heq
  have hfetch : ∀ k, (bodyObject a).fetch k = (bodyObject b).fetch k := fun k => by rw [hbody]
  have hversion : schemaVersion a = schemaVersion b := by
    have hschema := hfetch "schema_version"
    rw [fetch_body_schema, fetch_body_schema] at hschema
    exact Json.int.inj hschema
  refine ⟨hversion, fun k hk => ?_, fun h3 => ?_, fun h4 => ?_, ?_, ?_⟩
  · rw [← fetch_body_copied a hk, ← fetch_body_copied b hk, hbody]
  · rw [← fetch_body_algorithm a h3, ← fetch_body_algorithm b (hversion ▸ h3), hbody]
  · have h4' : 4 ≤ schemaVersion b := hversion ▸ h4
    have hvalid := h.valid h4
    have hvalid' := h'.valid h4'
    have hcommitment := hfetch "genesis_commitment"
    rw [fetch_body_commitment a h4, fetch_body_commitment b h4', commitmentValue, commitmentValue,
      if_pos (DidElix.isObj_of_validate hvalid), if_pos (DidElix.isObj_of_validate hvalid')]
      at hcommitment
    exact sameCommitment hvalid hvalid' hcommitment
  · have haliases := hfetch "also_known_as"
    rw [fetch_body_aliases, fetch_body_aliases] at haliases
    exact Json.arr.inj haliases
  · have hdevices := hfetch "devices"
    rw [fetch_body_devices, fetch_body_devices] at hdevices
    exact sameDevices (Json.arr.inj hdevices)

theorem genuine_of_submit {E : Env} {now : Time} {anchor : Json} {opts : SubmitOpts} {s : Relay}
    {row : IdentityAnchor} (h : (submit E now anchor opts s).1 = .ok row) :
    Genuine E.toPlatform anchor row := by
  rcases submit_cases E now anchor opts s with ⟨e, herror, -⟩ | ⟨x, hok, -, -, hacc, -⟩
  · rw [herror] at h
    cases h
  · rw [hok] at h
    cases h
    exact hacc.genuine

/-- **Signed bodies are faithful.**  In every run each stored row is read back with the signed text
it keeps, and two anchors that were accepted with one text, in whatever states, have the same value
of every signed field. -/
theorem bodies_faithful (E : Env) (acts : List AnchorAction) :
    (∀ x ∈ (exec (anchorStep E) Relay.empty acts).identityAnchors.rows,
      ∃ o, toObject x = some o ∧ canonicalBody o = x.canonicalBody) ∧
    ∀ now now' a b opts opts' s s' row row', (submit E now a opts s).1 = .ok row →
      (submit E now' b opts' s').1 = .ok row' → canonicalBody a = canonicalBody b →
        SameContent a b := by
  constructor
  · intro x hx
    obtain ⟨_, _, anchor, _, _, row, -, hsubmitted, hcontent⟩ := exists_submission rfl hx
    have hgenuine : Genuine E.toPlatform anchor x :=
      genuine_content.1 (hcontent ▸ genuine_content.2 hsubmitted.accepted.genuine)
    exact hgenuine.canonicalBody_object
  · intro now now' a b opts opts' s s' row row' h h' heq
    exact (genuine_of_submit h).sameContent (genuine_of_submit h') heq

end AnchorStore

end Ansible
