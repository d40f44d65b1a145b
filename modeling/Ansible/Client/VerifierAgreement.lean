import Ansible.Client.DidElixResolver

/-!
# Agreement of the verifiers

A served chain of version 4 is verified by other relays (`FederatedResolver`) and by the app
(`DidElixResolver`).  Both accept every chain that the relay serves for a DID whose anchors name
their custody class and their key algorithm, and the app recomputes the content identifiers
that the relay stored.  An anchor without a custody class is accepted and served by the relay,
which has a default for it, and not read by the app, which has none.

## Main definitions

* `Client.Records` — the objects of a chain, the rows they serve and the records they are read
  as.

## Main results

* `Client.resolvesChain_of_served` — **a served chain of version 4 is accepted by the app.**
* `Client.verifiers_agree` — **both verifiers accept what is served after any run of explicit
  anchors.**
-/

namespace Ansible
namespace Client
open AnchorStore

/-! ### Hexadecimal text -/

theorem hexNibble_bounds {b : UInt8} {n : ℕ} (h : hexNibble b = some n) :
    b.toNat < 128 ∧ n < 16 ∧ Json.hexVal (Char.ofNat b.toNat) = some n ∧
      isTrimmed (Char.ofNat b.toNat) = false := by
  have hall : ∀ m : ℕ, m < 128 → ∀ n : ℕ, n < 16 → hexNibble (UInt8.ofNat m) = some n →
      Json.hexVal (Char.ofNat m) = some n ∧ isTrimmed (Char.ofNat m) = false := by decide +kernel
  obtain ⟨hlt, -⟩ := not_isWhiteSpace_of_hexNibble h
  have hn : n < 16 := by
    unfold hexNibble at h
    dsimp only at h
    split_ifs at h with h1 h2 h3 <;> (obtain rfl := Option.some.inj h; omega)
  have hb : UInt8.ofNat b.toNat = b := UInt8.ofNat_toNat
  exact ⟨hlt, hn, hall _ hlt _ hn (hb.symm ▸ h)⟩

theorem utf16_ofNat {n : ℕ} (hn : n < 128) : utf16 (Char.ofNat n) = [n] := by
  revert n
  decide +kernel

theorem hexUnit_toNat {b : UInt8} {n : ℕ} (h : hexNibble b = some n) :
    hexUnit b.toNat = some n := by
  rw [hexUnit, if_pos (hexNibble_bounds h).1, UInt8.ofNat_toNat, h]

/-- Bytes that read as hexadecimal are the characters of their text, and its code units. -/
theorem decodeUtf8_of_decode16 : ∀ {B C : Binary}, decode16 B = some C →
    decodeUtf8 B = B.map (fun b => Char.ofNat b.toNat) ∧
      unhexUnits ((decodeUtf8 B).flatMap utf16) = some C
  | [], C, h => by
    obtain rfl : [] = C := Option.some.inj h
    exact ⟨by rw [decodeUtf8]; rfl, by rw [decodeUtf8]; rfl⟩
  | [_], C, h => by simp [decode16] at h
  | a :: b :: r, C, h => by
    simp only [decode16, Option.bind_eq_bind, Option.bind_eq_some_iff, Option.pure_def,
      Option.some.injEq] at h
    obtain ⟨hi, hhi, lo, hlo, d, hd, rfl⟩ := h
    obtain ⟨hchars, hunhex⟩ := decodeUtf8_of_decode16 hd
    have ha := (hexNibble_bounds hhi).1
    have hb := (hexNibble_bounds hlo).1
    have htext : decodeUtf8 (a :: b :: r)
        = Char.ofNat a.toNat :: Char.ofNat b.toNat :: decodeUtf8 r := by
      rw [decodeUtf8.eq_def]
      simp only [ha, if_true]
      rw [decodeUtf8.eq_def]
      simp only [hb, if_true]
    refine ⟨by rw [htext, hchars]; rfl, ?_⟩
    rw [htext, List.flatMap_cons, List.flatMap_cons, utf16_ofNat ha, utf16_ofNat hb,
      List.singleton_append, List.singleton_append, unhexUnits, parseByte, hexUnit_toNat hhi,
      hexUnit_toNat hlo, hunhex]
    rfl

variable {s : String} {C : Binary} {rows : List Ansible.IdentityAnchor} {objects : List Json}

theorem unhex_of_decode16 (h : decode16 (bytes s) = some C) :
    unhexText s = some C ∧ (chars s).length = (bytes s).length := by
  obtain ⟨hchars, hunhex⟩ := decodeUtf8_of_decode16 h
  exact ⟨hunhex, by rw [chars, hchars, List.length_map]⟩

theorem take_two_of_decode16 (h : decode16 (bytes s) = some C) (hhead : C.head? = some 4) :
    (chars s).take 2 = ['0', '4'] := by
  obtain ⟨hchars, -⟩ := decodeUtf8_of_decode16 h
  rw [chars, hchars]
  generalize bytes s = B at h
  rcases B with _ | ⟨a, _ | ⟨b, r⟩⟩
  · obtain rfl : [] = C := Option.some.inj h
    cases hhead
  · simp [decode16] at h
  · simp only [decode16, Option.bind_eq_bind, Option.bind_eq_some_iff, Option.pure_def,
      Option.some.injEq] at h
    obtain ⟨hi, hhi, lo, hlo, d, -, rfl⟩ := h
    obtain ⟨ha, hi16, -, -⟩ := hexNibble_bounds hhi
    obtain ⟨hb, lo16, -, -⟩ := hexNibble_bounds hlo
    have hfour : ∀ hi < 16, ∀ lo < 16, UInt8.ofNat (hi * 16 + lo) = 4 → hi = 0 ∧ lo = 4 := by
      decide
    obtain ⟨rfl, rfl⟩ := hfour hi hi16 lo lo16 (Option.some.inj hhead)
    have hzero : ∀ m < 128, hexNibble (UInt8.ofNat m) = some 0 → Char.ofNat m = '0' := by
      decide +kernel
    have hdigit : ∀ m < 128, hexNibble (UInt8.ofNat m) = some 4 → Char.ofNat m = '4' := by
      decide +kernel
    rw [List.map_cons, List.map_cons, hzero _ ha (by rw [UInt8.ofNat_toNat]; exact hhi),
      hdigit _ hb (by rw [UInt8.ofNat_toNat]; exact hlo)]
    rfl

/-! ### Signatures -/

theorem decodeHex_eq_some {hex : String} {n : ℕ} {k : Binary}
    (h : SigVerifier.decodeHex hex n = some k) :
    decode16 (bytes hex) = some k ∧ k.length = n ∧ (bytes hex).length = 2 * n := by
  unfold SigVerifier.decodeHex at h
  split at h
  · next hlen =>
    have := length_decode16 h
    exact ⟨h, by omega, hlen⟩
  · cases h

theorem ed25519KeysVerify_eq {P : Platform} {key sig : String} {k c : Binary}
    (hk : SigVerifier.decodeHex key 32 = some k) (hc : SigVerifier.decodeHex sig 64 = some c)
    (message : Text) : ed25519KeysVerify P key message sig
      = some (P.ed25519Verify k message.utf8 c) := by
  obtain ⟨hk, hklen, -⟩ := decodeHex_eq_some hk
  obtain ⟨hc, hclen, -⟩ := decodeHex_eq_some hc
  rw [ed25519KeysVerify, (unhex_of_decode16 hk).1, (unhex_of_decode16 hc).1]
  simp [hklen, hclen]

theorem not_trimmed_of_decode16 (h : decode16 (bytes s) = some C) (hne : C ≠ []) :
    (chars s).all isTrimmed = false := by
  obtain ⟨hchars, -⟩ := decodeUtf8_of_decode16 h
  rw [chars, hchars]
  generalize bytes s = B at h
  rcases B with _ | ⟨a, _ | ⟨b, r⟩⟩
  · exact absurd (Option.some.inj h).symm hne
  · simp [decode16] at h
  · simp only [decode16, Option.bind_eq_bind, Option.bind_eq_some_iff] at h
    obtain ⟨hi, hhi, -⟩ := h
    obtain ⟨-, -, -, hws⟩ := hexNibble_bounds hhi
    rw [List.map_cons, List.all_cons, hws, Bool.false_and]

section Signatures

variable {P : Platform} {algorithm key sig : String} {message : Text}

theorem decode16_of_verifyIdentity
    (h : SigVerifier.verifyIdentity P algorithm key message sig = true) :
    ∃ c, decode16 (bytes sig) = some c ∧ c ≠ [] := by
  unfold SigVerifier.verifyIdentity at h
  split at h
  · unfold SigVerifier.verifyEd25519 at h
    split at h
    · next k c hk hc =>
      obtain ⟨hc, hlen, -⟩ := decodeHex_eq_some hc
      refine ⟨c, hc, ?_⟩
      rintro rfl
      cases hlen
    · cases h
  · split at h
    · unfold SigVerifier.verifyP256 at h
      split at h
      · next k c hk hc =>
        refine ⟨c, hc, ?_⟩
        rintro rfl
        simp at h
      · cases h
    · cases h

theorem not_trimmed_of_verifyIdentity
    (h : SigVerifier.verifyIdentity P algorithm key message sig = true) :
    (chars sig).all isTrimmed = false := by
  obtain ⟨c, hc, hne⟩ := decode16_of_verifyIdentity h
  exact not_trimmed_of_decode16 hc hne

theorem ne_empty_of_verifyIdentity
    (h : SigVerifier.verifyIdentity P algorithm key message sig = true) : sig ≠ "" := by
  rintro rfl
  exact absurd (not_trimmed_of_verifyIdentity h) (by decide)

/-- **A signature that the relay verified verifies in the app.** -/
theorem verifySignature_of_verifyIdentity
    (h : SigVerifier.verifyIdentity P algorithm key message sig = true) :
    verifySignature P algorithm key message sig = some true := by
  rw [verifySignature, if_neg (ne_empty_of_verifyIdentity h)]
  unfold SigVerifier.verifyIdentity at h
  split at h
  · next halg =>
    rw [if_pos halg]
    unfold SigVerifier.verifyEd25519 at h
    split at h
    · next k c hk hc => rw [ed25519KeysVerify_eq hk hc, h]
    · cases h
  · next hne =>
    rw [if_neg hne]
    split at h
    · next halg =>
      rw [if_pos halg]
      unfold SigVerifier.verifyP256 at h
      split at h
      · next k c hk hc =>
        obtain ⟨hk, -, hklen⟩ := decodeHex_eq_some hk
        simp only [Bool.and_eq_true, beq_iff_eq, decide_eq_true_eq] at h
        obtain ⟨⟨⟨hhead, -⟩, -⟩, hverified⟩ := h
        have hlen := (unhex_of_decode16 hk).2
        rw [didSignerVerify, if_pos ⟨by omega, take_two_of_decode16 hk hhead⟩,
          hardwareIdentityKeyVerify, hk, hc]
        exact congrArg some hverified
      · cases h
    · cases h

end Signatures

/-! ### Devices -/

theorem hexNibble_of_isLowerHex {b : UInt8} (h : isLowerHex b = true) :
    ∃ n, hexNibble b = some n := by
  have hall : ∀ m < 256, isLowerHex (UInt8.ofNat m) = true →
      (hexNibble (UInt8.ofNat m)).isSome = true := by decide +kernel
  have hb : UInt8.ofNat b.toNat = b := UInt8.ofNat_toNat
  have := hall b.toNat b.toNat_lt (hb.symm ▸ h)
  rw [hb] at this
  exact Option.isSome_iff_exists.1 this

theorem exists_decode16 : ∀ {B : Binary} (n : ℕ), B.length = 2 * n →
    (∀ b ∈ B, isLowerHex b = true) →
    ∃ C, decode16 B = some C
  | [], _, _, _ => ⟨[], rfl⟩
  | [_], n, hlen, _ => by
    rw [List.length_singleton] at hlen
    omega
  | a :: b :: r, n, hlen, hall => by
    obtain ⟨hi, hhi⟩ := hexNibble_of_isLowerHex (hall a (by simp))
    obtain ⟨lo, hlo⟩ := hexNibble_of_isLowerHex (hall b (by simp))
    obtain ⟨C, hC⟩ := exists_decode16 (B := r) (n - 1)
      (by simp only [List.length_cons] at hlen; omega)
      fun x hx => hall x (by simp [hx])
    exact ⟨_, by simp only [decode16, hhi, hlo, hC, Option.bind_eq_bind, Option.bind_some]; rfl⟩

theorem decodeHex_of_isHex64 (h : DidElix.isHex64 s = true) :
    ∃ k, SigVerifier.decodeHex s 32 = some k := by
  rw [DidElix.isHex64, Bool.and_eq_true, beq_iff_eq, List.all_eq_true] at h
  obtain ⟨C, hC⟩ := exists_decode16 32 h.1 h.2
  exact ⟨C, by rw [SigVerifier.decodeHex, if_pos h.1, hC]⟩

theorem devicesAttested_of_readAs {P : Platform} {algorithm key : String}
    {records : List AnchorDeviceRecord} {ds : List Json} (h : List.Forall₂ DeviceReadAs records ds)
    (hattested : ∀ d ∈ ds, verify P (.str algorithm) (.str key) (deviceAttestationMessage d)
      (d.fetch "attestation_sig") = true) :
    devicesAttested P algorithm key records = some true := by
  induction h with
  | nil => rfl
  | cons hrd _ ih =>
    have hd := hattested _ List.mem_cons_self
    rw [hrd.attestationSig, ← hrd.message] at hd
    rw [devicesAttested, verifySignature_of_verifyIdentity hd]
    exact ih fun d hd => hattested d (List.mem_cons_of_mem _ hd)

/-- A signature of 64 bytes by an enrolled device is found. -/
theorem deviceSigned_of_readAs {P : Platform} {body : Text} {authorization : String} {c : Binary}
    (hc : SigVerifier.decodeHex authorization 64 = some c) (hne : authorization ≠ "")
    {records : List AnchorDeviceRecord} {ds : List Json} (h : List.Forall₂ DeviceReadAs records ds)
    (hsigned : ∃ d ∈ ds, ∃ key, d.fetch "device_key" = .str key ∧
      SigVerifier.verifyEd25519 P key body authorization = true) :
    deviceSigned P body authorization records = some true := by
  induction h with
  | nil =>
    obtain ⟨d, hd, -⟩ := hsigned
    cases hd
  | @cons r d rs ds hrd _ ih =>
    obtain ⟨k, hk⟩ := decodeHex_of_isHex64 hrd.deviceKey_hex
    have hstep : verifySignature P "ed25519" r.deviceKey body authorization
        = some (P.ed25519Verify k body.utf8 c) := by
      rw [verifySignature, if_neg hne, if_pos rfl, ed25519KeysVerify_eq hk hc]
    rw [deviceSigned, hstep]
    cases hb : P.ed25519Verify k body.utf8 c with
    | true => rfl
    | false =>
      refine ih ?_
      obtain ⟨d', hd', key, hkey, hverified⟩ := hsigned
      rcases List.mem_cons.1 hd' with rfl | hd'
      · rw [hrd.deviceKey] at hkey
        cases hkey
        rw [SigVerifier.verifyEd25519, hk, hc] at hverified
        exact absurd (hb.symm.trans hverified) (by decide)
      · exact ⟨d', hd', key, hkey, hverified⟩

/-! ### Anchors -/

section Anchors

variable {P : Platform} {o : Json} {row : Ansible.IdentityAnchor} {a : IdentityAnchor}
  (ho : Serves P o row) (ha : ReadAs a row)
include ho ha

theorem computeCid_of_readAs : a.computeCid P = some row.anchorCid := by
  rw [IdentityAnchor.computeCid, ha.body, ho.hash]
  rfl

theorem cidMatches_of_readAs : cidMatches P a o = some true := by
  simp [cidMatches, ho.cid, computeCid_of_readAs ho ha]

theorem verifyAnchor_of_readAs : verifyAnchor P a = some true := by
  have hattested := ho.attested
  rw [verifyDeviceAttestations, AnchorStore.devices, ho.devices, listOf, List.all_eq_true,
    identityKeyAlgorithm, ho.algorithm, Json.orElse_str, ho.identityKey] at hattested
  have hdevices : devicesAttested P row.identityKeyAlgorithm row.identityKey a.devices
      = some true := by
    refine devicesAttested_of_readAs ha.devices fun d hd => ?_
    have hd' := hattested _ (List.mem_map_of_mem hd)
    simp only [deviceAttested, Bool.and_eq_true] at hd'
    simpa [canonicalDevice, deviceAttestationMessage, Json.fetch, List.lookup] using hd'.2
  rw [verifyAnchor, ha.body, ha.algorithm, ha.identityKey, ha.sig]
  simp only [Option.bind_eq_bind, Option.bind_some, verifySignature_of_verifyIdentity ho.signed,
    if_true, hdevices]

/-- The commitment of a served anchor derives its DID. -/
theorem derive_of_serves : ∃ key nonce,
    (commitmentOf row).fetch "genesis_key" = .str key ∧
    (commitmentOf row).fetch "genesis_nonce" = .str nonce ∧
    deriveDidElixV1 P key nonce = some a.did := by
  obtain ⟨key, nonce, hform, hk, hn⟩ := ho.commitment_form
  have hdid := (DidElix.matchesV1_iff.1 ho.derived).2
  rw [DidElix.canonicalV1Commitment, commitmentOf, canonicalCommitment_idem, ← commitmentOf,
    hform] at hdid
  refine ⟨key, nonce, ?_, ?_, ?_⟩
  · rw [hform]
    rfl
  · rw [hform]
    rfl
  · rw [deriveDidElixV1, buildCommitment, if_pos ⟨hk, hn⟩, ha.did, hdid]
    rfl

end Anchors

/-! ### Transitions -/

/-- An identity that signed once answers every signature of 64 bytes. -/
theorem verifySignature_total {P : Platform} {algorithm key sig authorization : String}
    {message : Text} (body : Text) {c : Binary}
    (h : SigVerifier.verifyIdentity P algorithm key message sig = true)
    (hc : SigVerifier.decodeHex authorization 64 = some c) (hne : authorization ≠ "") :
    ∃ b, verifySignature P algorithm key body authorization = some b := by
  rw [verifySignature, if_neg hne]
  unfold SigVerifier.verifyIdentity at h
  split at h
  · next halg =>
    rw [if_pos halg]
    unfold SigVerifier.verifyEd25519 at h
    split at h
    · next k _ hk _ => exact ⟨_, ed25519KeysVerify_eq hk hc body⟩
    · cases h
  · next hne =>
    rw [if_neg hne]
    split at h
    · next halg => exact ⟨_, if_pos halg⟩
    · cases h

theorem CustodyClass.storageValue_injective {c d : CustodyClass}
    (h : c.storageValue = d.storageValue) : c = d := by
  cases c <;> cases d <;> first | rfl | exact absurd h (by decide)

/-- The reason of the relay with the same text. -/
def AnchorReason.ofReason : Reason → AnchorReason
  | .initial => .initial
  | .rotation => .rotation
  | .recovery => .recovery
  | .deviceChange => .deviceChange

theorem AnchorReason.storageValue_eq {r : AnchorReason} {r' : Reason}
    (h : r.storageValue = Reason.toText r') : r = .ofReason r' := by
  cases r <;> cases r' <;> first | rfl | exact absurd h (by decide)

section Transition

variable {P : Platform} {q o : Json} {p c : Ansible.IdentityAnchor} {b a : IdentityAnchor}
  (hq : Serves P q p) (ho : Serves P o c) (hb : ReadAs b p) (ha : ReadAs a c)
  (h : Succeeds P p c)
include hq ho hb ha h

omit hq ho in
theorem reasonMatches_of_succeeds : reasonMatches b a = true := by
  have hr := h.reason
  have hreason := AnchorReason.storageValue_eq ha.reason
  unfold servedReasonMatchesTransition at hr
  rw [reasonMatches, hb.algorithm, hb.identityKey, ha.algorithm, ha.identityKey]
  cases hcr : c.reason with
  | initial =>
    rw [hcr] at hr
    cases hr
  | rotation =>
    rw [hcr] at hr hreason
    rw [hreason]
    exact hr
  | recovery =>
    rw [hcr] at hr hreason
    rw [hreason, ha.schemaVersion]
    have hv := h.version
    simpa [hv, AnchorReason.ofReason] using hr
  | deviceChange =>
    rw [hcr] at hr hreason
    rw [hreason]
    simp only [AnchorReason.ofReason, Bool.and_eq_true, beq_iff_eq] at hr ⊢
    refine ⟨hr.1, CustodyClass.storageValue_injective ?_⟩
    rw [hb.custody, ha.custody, hr.2]

omit hq hb h in
theorem authorizationOf_readAs : authorizationOf a o
    = some (if c.reason = .recovery then c.authorizationSig else c.deviceSig) := by
  have hreason := AnchorReason.storageValue_eq ha.reason
  rw [authorizationOf, ho.recoveryProof, asStringOrNull_textOrNull, ha.deviceSig, hreason]
  cases c.reason <;> rfl

omit ho in
/-- **A transition that the relay authorised is authorised in the app.** -/
theorem verifyTransition_of_succeeds : verifyTransition P b a
    (if c.reason = .recovery then c.authorizationSig else c.deviceSig) = some true := by
  obtain ⟨t, ht, hblank⟩ := not_blank_of_activeAuthoritySigned h.authorized
  have hne : t ≠ "" := by
    rintro rfl
    exact absurd hblank (by decide)
  have hsome : (if c.reason = .recovery then c.authorizationSig else c.deviceSig) = some t := by
    rw [authorization] at ht
    revert ht
    cases (if c.reason = .recovery then c.authorizationSig else c.deviceSig) with
    | none =>
      intro ht
      cases ht
    | some t' =>
      intro ht
      rw [Json.str.inj ht]
  have hstart : verifyTransition P b a (some t) = (do
      if ← verifySignature P p.identityKeyAlgorithm p.identityKey c.canonicalBody t then
        return true
      else if a.reason = .rotation then return false
      else deviceSigned P c.canonicalBody t b.devices) := by
    unfold verifyTransition
    split
    · next heq => cases heq
    · next heq => exact absurd (Option.some.inj heq) hne
    · next heq =>
      cases heq
      rw [if_neg (by rw [reasonMatches_of_succeeds hb ha h]; decide), ha.body, hb.algorithm,
        hb.identityKey]
      rfl
  rw [hsome, hstart]
  have hauth := h.authorized
  rw [ht] at hauth
  -- the identity key signed, or a device did and this is no rotation
  by_cases hkey : SigVerifier.verifyIdentity P p.identityKeyAlgorithm p.identityKey
      c.canonicalBody t = true
  · rw [verifySignature_of_verifyIdentity hkey]
    rfl
  · have hrotation : c.reason ≠ .rotation := by
      intro hr
      have hs := h.rotation hr
      rw [ht] at hs
      exact hkey hs
    have hdevice : ∃ d ∈ p.devices, ∃ key, d.fetch "device_key" = .str key ∧
        SigVerifier.verifyEd25519 P key c.canonicalBody t = true := by
      unfold activeAuthoritySigned at hauth
      split at hauth
      · cases hauth
      · cases hauth
      · rcases Bool.or_eq_true _ _ ▸ hauth with hs | hs
        · exact absurd hs hkey
        · obtain ⟨key, hmem, hsig⟩ := List.any_eq_true.1 hs
          obtain ⟨d, hd, hdk⟩ := List.mem_filterMap.1 hmem
          exact ⟨d, hd, key, Json.str?_eq_some.1 hdk, hsig⟩
    obtain ⟨sig, hsig⟩ : ∃ sig, SigVerifier.decodeHex t 64 = some sig := by
      obtain ⟨d, -, key, -, hverified⟩ := hdevice
      unfold SigVerifier.verifyEd25519 at hverified
      split at hverified
      · next k s _ hs => exact ⟨s, hs⟩
      · cases hverified
    obtain ⟨r, hr⟩ := verifySignature_total c.canonicalBody hq.signed hsig hne
    have hnot : a.reason ≠ .rotation := by
      rw [AnchorReason.storageValue_eq ha.reason]
      revert hrotation
      cases c.reason <;> simp [AnchorReason.ofReason]
    rw [hr]
    cases r with
    | true => rfl
    | false =>
      simp only [Option.bind_eq_bind, Option.bind_some, Bool.false_eq_true, if_false, if_neg hnot]
      exact deviceSigned_of_readAs hsig hne hb.devices hdevice

end Transition

/-! ### Chains -/

theorem exists_of_mem_left {α β : Type} {R : α → β → Prop} {l : List α} {m : List β}
    (h : List.Forall₂ R l m) {a : α} (ha : a ∈ l) : ∃ b ∈ m, R a b := by
  induction h with
  | nil => cases ha
  | cons hab _ ih =>
    rcases List.mem_cons.1 ha with rfl | ha
    · exact ⟨_, List.mem_cons_self, hab⟩
    · obtain ⟨b, hb, hr⟩ := ih ha
      exact ⟨b, List.mem_cons_of_mem _ hb, hr⟩

theorem sameCommitment_self {P : Platform} {o : Json} {row : Ansible.IdentityAnchor}
    (h : Serves P o row) : sameCommitment (commitmentOf row) (commitmentOf row) = true := by
  obtain ⟨key, nonce, hform, -, -⟩ := h.commitment_form
  rw [hform]
  simp [sameCommitment, Json.fetch, List.lookup, Json.eqv]

section Step

variable {P : Platform} {o : Json} {row : Ansible.IdentityAnchor} {a : IdentityAnchor}
  (ho : Serves P o row) (ha : ReadAs a row)
include ho ha

theorem commitmentValid_of_readAs {v1Commitment : Option Json} {isGenesis : Bool}
    (hgenesis : isGenesis = true →
      (commitmentOf row).fetch "genesis_key" = .str row.identityKey)
    (hv1 : ∀ c ∈ v1Commitment, c = commitmentOf row) :
    commitmentValid P v1Commitment isGenesis a = some (commitmentOf row) := by
  obtain ⟨key, nonce, hkey, hnonce, hderived⟩ := derive_of_serves ho ha
  have hmethod : ((commitmentOf row).fetch "method").eqv (.str "did:elix") = true := rfl
  have hversion : ((commitmentOf row).fetch "method_version").eqv (.int 1) = true := rfl
  have hall : v1Commitment.all (sameCommitment · (commitmentOf row)) = true := by
    cases v1Commitment with
    | none => rfl
    | some c => rw [Option.all_some, hv1 c rfl, sameCommitment_self ho]
  have hget : v1Commitment.getD (commitmentOf row) = commitmentOf row := by
    cases v1Commitment with
    | none => rfl
    | some c => exact hv1 c rfl
  have hident : isGenesis = true → some key = some a.identityKey := by
    intro hg
    have := (hgenesis hg).symm.trans hkey
    rw [ha.identityKey, ← Json.str.inj this]
  simp only [commitmentValid, ha.commitment, Option.bind_eq_bind, Option.bind_some, hmethod,
    hversion, hkey, hnonce, asStringOrNull, Option.getD_some, hderived, Bool.and_self, if_true,
    true_and, hall, and_true, hget, if_pos hident, Option.pure_def]

/-- An anchor passes the structural check when it is linked to the one before it. -/
theorem chainValidFrom_of_readAs {previous : Option IdentityAnchor} {v1Commitment : Option Json}
    {rest : List IdentityAnchor} (hgenesis : previous.isNone = true →
      (commitmentOf row).fetch "genesis_key" = .str row.identityKey)
    (hv1 : ∀ c ∈ v1Commitment, c = commitmentOf row)
    (hlink : linkValid P previous a = some true) :
    chainValidFrom P previous v1Commitment (a :: rest)
      = chainValidFrom P (some a) (some (commitmentOf row)) rest := by
  have hsig : (chars a.sig).all isTrimmed = false := by
    rw [ha.sig]
    exact not_trimmed_of_verifyIdentity ho.signed
  rw [chainValidFrom, commitmentValid_of_readAs ho ha hgenesis hv1, ha.schemaVersion]
  simp [hsig, hlink]

end Step

/-- The records of a served chain. -/
structure Records (P : Platform) (objects : List Json) (rows : List Ansible.IdentityAnchor)
    (anchors : List IdentityAnchor) : Prop where
  serves : List.Forall₂ (Serves P) objects rows
  read : List.Forall₂ ReadAs anchors rows

theorem chainValidFrom_of_linked {P : Platform} {p : Ansible.IdentityAnchor} {q : Json}
    {b : IdentityAnchor} (hq : Serves P q p) (hb : ReadAs b p) {anchors : List IdentityAnchor}
    (h : Records P objects rows anchors) (hlinked : (p :: rows).IsChain (Succeeds P)) :
    chainValidFrom P (some b) (some (commitmentOf p)) anchors = some true := by
  induction rows generalizing p q b objects anchors with
  | nil =>
    obtain rfl := List.forall₂_nil_right_iff.1 h.read
    rfl
  | cons c rows ih =>
    obtain ⟨o, os, ho, hos, rfl⟩ := List.forall₂_cons_right_iff.1 h.serves
    obtain ⟨a, as, ha, has, rfl⟩ := List.forall₂_cons_right_iff.1 h.read
    obtain ⟨hs, hrest⟩ := List.isChain_cons_cons.1 hlinked
    have hlink : linkValid P (some b) a = some true := by
      have hprev : a.prevAnchorCid = some p.anchorCid := ha.prev.trans hs.link
      simp [linkValid, hprev, computeCid_of_readAs hq hb]
    rw [chainValidFrom_of_readAs ho ha (fun hn => by cases hn) (fun d hd => ?_) hlink]
    · exact ih ho ha ⟨hos, has⟩ hrest
    · cases hd
      exact hs.commitment.symm

theorem verifiedFrom_of_linked {P : Platform} {p : Ansible.IdentityAnchor} {q : Json}
    {b : IdentityAnchor} {commitment : Json} (hq : Serves P q p) (hb : ReadAs b p)
    (hcommitment : commitment = commitmentOf p) {anchors : List IdentityAnchor}
    (h : Records P objects rows anchors) (hlinked : (p :: rows).IsChain (Succeeds P)) :
    verifiedFrom P (some commitment) (some b) (anchors.zip objects) = some true := by
  induction rows generalizing p q b objects anchors with
  | nil =>
    obtain rfl := List.forall₂_nil_right_iff.1 h.read
    rfl
  | cons c rows ih =>
    obtain ⟨o, os, ho, hos, rfl⟩ := List.forall₂_cons_right_iff.1 h.serves
    obtain ⟨a, as, ha, has, rfl⟩ := List.forall₂_cons_right_iff.1 h.read
    obtain ⟨hs, hrest⟩ := List.isChain_cons_cons.1 hlinked
    have hrepeated : commitmentRepeated (some commitment) a = true := by
      rw [commitmentRepeated, hcommitment, ← hs.commitment]
      simp [ha.schemaVersion, ha.commitment, sameCommitment_self ho]
    have htransition := verifyTransition_of_succeeds hq hb ha hs
    rw [List.zip_cons_cons, verifiedFrom, cidMatches_of_readAs ho ha, hrepeated,
      verifyAnchor_of_readAs ho ha]
    simp only [Option.bind_eq_bind, Option.bind_some, Bool.not_true, Bool.false_eq_true, if_false,
      authorizationOf_readAs ho ha, htransition, if_true]
    exact ih ho ha (hcommitment.trans hs.commitment.symm) ⟨hos, has⟩ hrest

theorem genesisMatches_of_readAs {P : Platform} {o : Json} {row : Ansible.IdentityAnchor}
    {a : IdentityAnchor} (ho : Serves P o row) (ha : ReadAs a row)
    (hkey : (commitmentOf row).fetch "genesis_key" = .str row.identityKey) :
    genesisMatches P row.did a = some true := by
  obtain ⟨key, nonce, hgenesis, hnonce, hderived⟩ := derive_of_serves ho ha
  have hident : (Json.str key).eqv (.str a.identityKey) = true := by
    rw [← hgenesis, hkey, ha.identityKey]
    exact Json.eqv_str_right.2 rfl
  have hmethod : ((commitmentOf row).fetch "method").eqv (.str "did:elix") = true := rfl
  have hversion : ((commitmentOf row).fetch "method_version").eqv (.int 1) = true := rfl
  rw [genesisMatches, if_pos (by rw [ha.schemaVersion])]
  simp only [ha.commitment, hmethod, hversion, hgenesis, hident, Bool.and_self, if_true, hnonce,
    asStringOrNull, Option.bind_eq_bind, Option.bind_some, Option.getD_some, hderived, ha.did,
    beq_self_eq_true, Option.pure_def]

theorem exists_records {P : Platform} (toUtc : ℤ → ℤ) (h : List.Forall₂ (Serves P) objects rows) :
    ∃ anchors, objects.mapM (IdentityAnchor.fromMap toUtc) = some anchors ∧
      Records P objects rows anchors ∧ objects.all Json.isObj = true := by
  induction h with
  | nil => exact ⟨[], rfl, ⟨.nil, .nil⟩, rfl⟩
  | @cons o row os rows ho _ ih =>
    obtain ⟨anchors, hread, hrecords, hobj⟩ := ih
    obtain ⟨a, ha, hra⟩ := fromMap_of_serves ho toUtc
    refine ⟨a :: anchors, ?_, ⟨.cons ho hrecords.serves, .cons hra hrecords.read⟩, ?_⟩
    · rw [List.mapM_cons, ha, hread]
      rfl
    · have : o.isObj = true := by
        have hv := ho.version
        cases o with
        | obj f => rfl
        | _ => cases hv
      rw [List.all_cons, this, hobj]
      rfl

/-- **A served chain of version 4 is accepted by the app.** -/
theorem resolvesChain_of_served {P : Platform} {did : String} (toUtc : ℤ → ℤ)
    (h : ServedChain P did objects rows) : resolvesChain P toUtc did objects = true := by
  obtain ⟨anchors, hread, hrecords, hobj⟩ := exists_records toUtc h.serves
  obtain ⟨g, rest, rfl, hprev, hreason, hkey⟩ := h.genesis
  obtain ⟨o, os, ho, hos, rfl⟩ := List.forall₂_cons_right_iff.1 h.serves
  obtain ⟨a, as, ha, has, rfl⟩ := List.forall₂_cons_right_iff.1 hrecords.read
  have hlink : linkValid P none a = some true := by
    have hr := AnchorReason.storageValue_eq ha.reason
    rw [hreason] at hr
    simp [linkValid, hr, AnchorReason.ofReason, ha.prev, hprev]
  have hchain : chainValid P (a :: as) = some true := by
    rw [chainValid, if_neg (by simp), chainValidFrom_of_readAs ho ha (fun _ => hkey)
      (fun c hc => by cases hc) hlink]
    exact chainValidFrom_of_linked ho ha ⟨hos, has⟩ h.linked
  have hdids : (a :: as).any (fun anchor => anchor.did != did) = false := by
    rw [List.any_eq_false]
    intro x hx
    obtain ⟨row, hrow, hxr⟩ := exists_of_mem_left hrecords.read hx
    simp [hxr.did, h.did row hrow]
  have hgenesis : genesisMatches P did a = some true := by
    rw [← h.did g List.mem_cons_self]
    exact genesisMatches_of_readAs ho ha hkey
  have hverified : verifiedFrom P a.genesisCommitment none ((a :: as).zip (o :: os))
      = some true := by
    have hrepeated : commitmentRepeated (some (commitmentOf g)) a = true := by
      simp [commitmentRepeated, ha.schemaVersion, ha.commitment, sameCommitment_self ho]
    rw [ha.commitment, List.zip_cons_cons, verifiedFrom, cidMatches_of_readAs ho ha, hrepeated,
      verifyAnchor_of_readAs ho ha]
    simp only [Option.bind_eq_bind, Option.bind_some, Bool.not_true, Bool.false_eq_true, if_false]
    exact verifiedFrom_of_linked ho ha rfl ⟨hos, has⟩ h.linked
  have hlen : (a :: as).length = (o :: os).length :=
    hrecords.read.length_eq.trans h.serves.length_eq.symm
  have hall : verifiedChain P did (a :: as) (o :: os) = some true := by
    rw [verifiedChain]
    rw [List.zip_cons_cons] at hverified
    simp [hlen, hchain, hdids, hgenesis, hverified]
  rw [resolvesChain, if_pos hobj, hread]
  simp [hall]

theorem recomputed_of_served {P : Platform} (toUtc : ℤ → ℤ)
    (h : List.Forall₂ (Serves P) objects rows) {o : Json} (ho : o ∈ objects) :
    ∃ a cid, IdentityAnchor.fromMap toUtc o = some a ∧ a.computeCid P = some cid ∧
      o.fetch "anchor_cid" = .str cid := by
  obtain ⟨row, -, hrow⟩ := exists_of_mem_left h ho
  obtain ⟨a, ha, hra⟩ := fromMap_of_serves hrow toUtc
  exact ⟨a, row.anchorCid, ha, computeCid_of_readAs hrow hra, hrow.cid⟩

/-- Both verifiers accept the objects, and the app recomputes the identifiers they carry. -/
structure Agreed (P : Platform) (toUtc : ℤ → ℤ) (did : String) (objects : List Json) : Prop where
  federated : FederatedResolver.verifiedChain P did objects = true
  client : resolvesChain P toUtc did objects = true
  recomputed : ∀ o ∈ objects, ∃ a cid, IdentityAnchor.fromMap toUtc o = some a ∧
    a.computeCid P = some cid ∧ o.fetch "anchor_cid" = .str cid

/-- **Both verifiers accept what is served of version 4 after any run whose accepted anchors
name their custody class and their key algorithm.** -/
theorem verifiers_agree {E : Env} {s₀ : Relay} {acts : List AnchorAction} {did : String}
    (h₀ : s₀.identityAnchors.rows = [])
    (hexplicit : Along (anchorStep E) (ExplicitStep E did) s₀ acts)
    (h4 : HasV4 did (exec (anchorStep E) s₀ acts)) {objects : List Json}
    (hok : getChain E.toPlatform did (exec (anchorStep E) s₀ acts) = .ok objects)
    (toUtc : ℤ → ℤ) : Agreed E.toPlatform toUtc did objects := by
  obtain ⟨rows, hserved⟩ := servedChain_of_getChain h₀ hexplicit h4 hok
  exact ⟨FederatedResolver.verifiedChain_of_served hserved, resolvesChain_of_served toUtc hserved,
    fun o ho => recomputed_of_served toUtc hserved.serves ho⟩

def toyDid : String := (DidElix.deriveV1 .toy toyCommitment).getD ""

/-- A genesis of version 4 that names its custody class. -/
def toyExplicitGenesis : Json :=
  toySigned 1 1 ((toyAnchorV1 1 .null "initial" "2026-01-01T00:00:00.000Z").merge
    [("custody_class", .str "software")])

theorem toyExplicitGenesis_served :
    (getChain .toy toyDid (exec (anchorStep .toy) Relay.empty
      [.submit 0 toyExplicitGenesis {}])).toOption.map (·.length) = some 1 ∧
    (exec (anchorStep .toy) Relay.empty
      [.submit 0 toyExplicitGenesis {}]).identityAnchors.rows.map
        (fun x => (x.did == toyDid, decide (4 ≤ x.schemaVersion))) = [(true, true)] := by
  decide +kernel

theorem hasV4_of_map {did : String} {s : Relay}
    (h : s.identityAnchors.rows.map (fun x => (x.did == did, decide (4 ≤ x.schemaVersion)))
      = [(true, true)]) : HasV4 did s := by
  obtain ⟨x, hx, hxs⟩ := List.map_eq_singleton_iff.1 h
  rw [Prod.mk.injEq, beq_iff_eq, decide_eq_true_eq] at hxs
  exact ⟨x, hx ▸ List.mem_singleton_self x, hxs⟩

theorem verifiers_agree_toy : ∃ objects, getChain .toy toyDid (exec (anchorStep .toy) Relay.empty
    [.submit 0 toyExplicitGenesis {}]) = .ok objects ∧ Agreed .toy id toyDid objects := by
  obtain ⟨hserved, hrows⟩ := toyExplicitGenesis_served
  obtain ⟨objects, hobjects, -⟩ := Option.map_eq_some_iff.1 hserved
  have hok := ok_of_toOption hobjects
  have hcustody : toyExplicitGenesis.fetch "custody_class" = .str "software" := rfl
  have halgorithm : toyExplicitGenesis.fetch "identity_key_algorithm" = .str "p256-sha256" := rfl
  have hexplicit : Explicit toyExplicitGenesis :=
    ⟨by rw [hcustody]; exact Json.noConfusion, by rw [halgorithm]; rfl⟩
  have hrun : Along (anchorStep .toy) (ExplicitStep .toy toyDid) Relay.empty
      [.submit 0 toyExplicitGenesis {}] := ⟨fun _ _ _ => hexplicit, trivial⟩
  exact ⟨objects, hok, verifiers_agree rfl hrun (hasV4_of_map hrows) hok id⟩

theorem toyGenesisV1_served :
    (getChain .toy toyDid (exec (anchorStep .toy) Relay.empty
      [.submit 0 toyGenesisV1 {}])).toOption.map (resolvesChain .toy id toyDid ·) = some false ∧
    (exec (anchorStep .toy) Relay.empty [.submit 0 toyGenesisV1 {}]).identityAnchors.rows.map
      (fun x => (x.did == toyDid, decide (4 ≤ x.schemaVersion))) = [(true, true)] := by
  decide +kernel

/-- **An anchor without a custody class is served and not read by the app.** -/
theorem verifiers_disagree :
    HasV4 toyDid (exec (anchorStep .toy) Relay.empty [.submit 0 toyGenesisV1 {}]) ∧
    ∃ objects, getChain .toy toyDid (exec (anchorStep .toy) Relay.empty
      [.submit 0 toyGenesisV1 {}]) = .ok objects ∧ ¬ Agreed .toy id toyDid objects := by
  obtain ⟨hserved, hrows⟩ := toyGenesisV1_served
  obtain ⟨objects, hobjects, hunread⟩ := Option.map_eq_some_iff.1 hserved
  refine ⟨hasV4_of_map hrows, objects, ok_of_toOption hobjects, fun h => ?_⟩
  rw [h.client] at hunread
  cases hunread

end Client

end Ansible
