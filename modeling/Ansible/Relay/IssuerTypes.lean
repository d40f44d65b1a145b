import Ansible.Relay.Reputation

/-!
# The types of an issuer

An entry of the registry can restrict the types that its issuer is trusted to issue.  The
verifier looks for any of them among the types of a credential, and reports the first type that
it recognises.

## Main definitions

* `VpVerifier.LeadsPermitted` — of the recognised types of a credential the first is permitted.

## Main results

* `VpVerifier.reports_permitted_iff` — **the reported type is permitted exactly when the first
  recognised type of the accepted credential is.**
-/

namespace Ansible

/-- The issuer may issue credentials of the type. -/
def TrustedIssuer.Permits (entry : TrustedIssuer) (type : String) : Prop :=
  ∀ allowed, entry.credentialTypes = some allowed → type ∈ allowed

namespace VpVerifier

/-- The registry permits the issuer of the credential to issue the type. -/
def Permitted (V : VpEnv) (vc : Json) (type : String) : Prop :=
  ∃ entry, registryEntry V (vc.fetch "issuer") = .ok entry ∧ entry.Permits type

/-- A presentation is accepted with a type that the issuer of its credential may issue. -/
def ReportsPermitted (V : VpEnv) (now : Time) (did : String) (vp : Json) (s : Relay) : Prop :=
  ∀ type vc, (verifyWithCredential V now did vp s).1 = .ok (type, vc) → Permitted V vc type

/-- The texts among the types of a credential. -/
def listedTypes (vc : Json) : List String :=
  match mapGet vc "type" (.arr []) >>= enumerate with
  | .ok types => types.filterMap Json.str?
  | .error _ => []

/-- A type that the issuer may issue is listed, with no other recognised type before it. -/
def LeadsPermitted (V : VpEnv) (vc : Json) : Prop :=
  ∃ pre type post, listedTypes vc = pre ++ type :: post ∧ type ∈ recognisedCredentialTypes ∧
    Permitted V vc type ∧ ∀ t ∈ pre, t ∉ recognisedCredentialTypes

variable {V : VpEnv} {now : Time} {did type : String} {vp vc : Json} {s : Relay}

/-- What is accepted has passed the checks, and is reported with its type. -/
theorem accepted_of_verify (h : (verifyWithCredential V now did vp s).1 = .ok (type, vc)) :
    validateVc V now did vc = .ok () ∧ vcCredentialType vc = .ok type := by
  unfold verifyWithCredential resolveHolderKey at h
  generalize DidAccountCache.get did s = r at h
  obtain ⟨_ | e, t⟩ := r
  · cases h
  dsimp only at h
  simp only [bind_eq_ok] at h
  obtain ⟨_, -, vcs, -, vc', hvc, type', htype, hp⟩ := h
  cases hp
  obtain ⟨pre, post, -, hvalid, -⟩ := pickAcceptedVc_eq_ok hvc
  exact ⟨hvalid, htype⟩

/-- **The reported type is the first recognised one.** -/
theorem find_of_accepted (h : (verifyWithCredential V now did vp s).1 = .ok (type, vc)) :
    (listedTypes vc).find? (recognisedCredentialTypes.contains ·) = some type := by
  obtain ⟨hvalid, htype⟩ := accepted_of_verify h
  simp only [validateVc, checkVcType, bind_eq_ok, ensure_eq_ok] at hvalid
  obtain ⟨_, -, _, ⟨j, hj, types, htypes, hany⟩, -⟩ := hvalid
  have hlisted : listedTypes vc = types.filterMap Json.str? := by
    rw [listedTypes, bind_eq_ok.2 ⟨j, hj, htypes⟩]
  simp only [vcCredentialType, bind_eq_ok] at htype
  obtain ⟨j', hj', types', htypes', hfind⟩ := htype
  obtain rfl := Except.ok.inj (hj.symm.trans hj')
  obtain rfl := Except.ok.inj (htypes.symm.trans htypes')
  rw [hlisted]
  -- the check of the types has found a recognised one
  obtain ⟨x, hx, hrecognised⟩ := List.any_eq_true.1 hany
  obtain ⟨t, ht, hmem⟩ := (Option.any_eq_true _ _).1 hrecognised
  have hsome : ((types.filterMap Json.str?).find? (recognisedCredentialTypes.contains ·)).isSome :=
    List.find?_isSome.2 ⟨t, List.mem_filterMap.2 ⟨x, hx, ht⟩, hmem⟩
  obtain ⟨u, hu⟩ := Option.isSome_iff_exists.1 hsome
  rw [hu] at hfind ⊢
  exact congrArg some (Except.ok.inj hfind)

/-- **A presentation is accepted with a type its issuer may issue exactly when that comes first
among the recognised types of the accepted credential.** -/
theorem reports_permitted_iff (V : VpEnv) (now : Time) (did : String) (vp : Json) (s : Relay) :
    ReportsPermitted V now did vp s ↔ ∀ type vc,
      (verifyWithCredential V now did vp s).1 = .ok (type, vc) → LeadsPermitted V vc := by
  refine forall_congr' fun type => forall_congr' fun vc => imp_congr_right fun h => ?_
  obtain ⟨hrecognised, pre, post, hsplit, hpre⟩ :=
    List.find?_eq_some_iff_append.1 (find_of_accepted h)
  have hpre' : ∀ t ∈ pre, t ∉ recognisedCredentialTypes := by simpa using hpre
  constructor
  · intro hpermitted
    exact ⟨pre, type, post, hsplit, by simpa using hrecognised, hpermitted, hpre'⟩
  · rintro ⟨pre', type', post', hsplit', hrecognised', hpermitted, hpre''⟩
    have hfind : (listedTypes vc).find? (recognisedCredentialTypes.contains ·) = some type' :=
      List.find?_eq_some_iff_append.2
        ⟨by simpa using hrecognised', pre', post', hsplit', by simpa using hpre''⟩
    obtain rfl := Option.some.inj ((find_of_accepted h).symm.trans hfind)
    exact hpermitted

/-! ### A credential of two types -/

open Reputation

/-- The issuer is trusted for e-mail addresses. -/
def toyEmailEnv : VpEnv := { toyVpEnv with
  trustedVcIssuers := [⟨"did:web:issuer.example", String.ofList (encode16 toyIssuerKey),
    some ["EmailCredential"]⟩] }

/-- A credential of a person, with a second type. -/
def toyTwoTypes : Json :=
  let vc := Json.obj [
    ("type", .arr [.str "TrisAuraHumanityCredential", .str "EmailCredential"]),
    ("issuer", .str "did:web:issuer.example"),
    ("credentialSubject", .obj [("id", .str toyDid)])]
  vc.merge [("proof", .obj [("proofValue",
    .str (String.ofList (encode16 (toyIssuerKey ++ toyHash (canonicalJson vc).utf8))))])]

/-- **An issuer that is trusted for e-mail addresses attests a person.** -/
theorem email_issuer_attests : ¬ ReportsPermitted toyEmailEnv 0 toyDid (toyVp [toyTwoTypes])
    toyHolder := by
  have haccepted : ((verifyWithCredential toyEmailEnv 0 toyDid (toyVp [toyTwoTypes])
      toyHolder).1.toOption.map fun p => (p.1, (p.2.fetch "issuer").str?)) =
        some ("TrisAuraHumanityCredential", some "did:web:issuer.example") := by decide +kernel
  intro h
  obtain ⟨⟨type, vc⟩, hr, heq⟩ := Option.map_eq_some_iff.1 haccepted
  obtain ⟨rfl, hissuer⟩ := Prod.mk.inj heq
  have hok : (verifyWithCredential toyEmailEnv 0 toyDid (toyVp [toyTwoTypes]) toyHolder).1 =
      .ok ("TrisAuraHumanityCredential", vc) := by
    generalize (verifyWithCredential toyEmailEnv 0 toyDid (toyVp [toyTwoTypes]) toyHolder).1 = r
      at hr ⊢
    cases r with
    | error e => cases hr
    | ok p => exact congrArg Except.ok (Option.some.inj hr)
  obtain ⟨entry, hentry, hpermits⟩ := h _ _ hok
  rw [Json.str?_eq_some.1 hissuer] at hentry
  obtain rfl : _ = entry := Except.ok.inj hentry
  exact absurd (hpermits _ rfl) (by decide)

end VpVerifier

end Ansible
