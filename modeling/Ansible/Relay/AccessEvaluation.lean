import Ansible.Relay.BoardAccessPolicy

/-!
# Evaluating board access policies

What a policy requires for an action is looked up in the document that the checks accepted, without
checking it again: the rule is fetched under its name, its issuers and claims are enumerated.  Here
a rule is first read from its document, and the evaluation is compared with what the rule that was
read demands of a credential.  The evidence about a credential is not checked at all, and its
claims are looked into only when they are a map.

## Main definitions

* `BoardAccessPolicy.evaluate` — whether evidence grants an action; `Refusal.raised` stands for a
  clause that no function has and for a key that is missing.
* `AccessRule` — what a rule demands, `AccessRule.Reads` — a document reads as the rule.
* `AccessRule.MetBy` — so are the values of the claims.

## Main results

* `BoardAccessPolicy.access_sound_iff` — **an accepted policy is evaluated soundly exactly when the
  claims of a credential that matches its rule otherwise are a map.**
-/

namespace Ansible

/-- What a rule demands of a credential: its claims are the members that hold given values. -/
structure AccessRule where
  credentialType : String
  configurationId : Option String
  trustedIssuers : List String
  claims : List (String × Json)

namespace BoardAccessPolicy

/-! ### Evaluation -/

/-- Why an action is refused. -/
inductive Refusal
  | policy (e : PolicyError)
  | credentialRequired
  | issuerNotTrusted
  | holderBindingFailed
  | credentialRevoked
  | claimNotSatisfied
  | raised
  deriving DecidableEq, Repr

/-- `x in j`: the members of a map are pairs, and what is neither a list nor a map raises. -/
def memberOf (x : Json) : Json → Except Refusal Bool
  | .arr l => .ok (l.any (x.eqv ·))
  | .obj _ => .ok false
  | _ => .error .raised

/-- The whole path is the name of one member. -/
def claimValue (claims path : Json) : Json :=
  match path with
  | .str key => claims.fetch key
  | _ => .null

def claimSatisfied (claims rule : Json) : Bool :=
  (rule.fetch "op").eqv (.str "equals") &&
    (claimValue claims (rule.fetch "path")).eqv (rule.fetch "value")

/-- `claims_satisfied?` has no clause for claims that are not a map. -/
def claimsSatisfied (rules claims : Json) : Except Refusal Bool :=
  match claims with
  | .obj _ =>
    match rules with
    | .arr l => .ok (l.all (claimSatisfied claims))
    | .obj pairs => .ok pairs.isEmpty
    | _ => .error .raised
  | _ => .error .raised

/-- The claims of the evidence, with their default. -/
def evidenceClaims (evidence : Json) : Json := (evidence.get? "claims").getD (.obj [])

def evaluateRule (rule evidence : Json) : Except Refusal Unit := do
  ensure ((evidence.fetch "credential_type").eqv (rule.fetch "credential_type")) .credentialRequired
  ensure ((rule.fetch "credential_configuration_id").isNull ||
    (evidence.fetch "credential_configuration_id").eqv (rule.fetch "credential_configuration_id"))
    .credentialRequired
  let trusted ← memberOf (evidence.fetch "issuer") (rule.fetch "trusted_issuers")
  ensure trusted .issuerNotTrusted
  ensure ((evidence.fetch "holder_bound").eqv (.bool true)) .holderBindingFailed
  ensure ((evidence.fetch "status").eqv (.str "active")) .credentialRevoked
  let satisfied ← claimsSatisfied (rule.fetch "claims") (evidenceClaims evidence)
  ensure satisfied .claimNotSatisfied

/-- A requirement that is built in is granted to any evidence, also to none. -/
def evaluateRequirement (requirement requirements evidence : Json) : Except Refusal Unit :=
  if oneOf builtInRequirements requirement then .ok ()
  else if evidence.isObj then
    match requirement.str?.bind requirements.get? with
    | some rule => evaluateRule rule evidence
    | none => .error .raised
  else .error .credentialRequired

def evaluate (encryptedBoardsEnabled : Bool) (policy : Json) (action : Action) (evidence : Json) :
    Except Refusal Unit :=
  match validate encryptedBoardsEnabled policy with
  | .error e => .error (.policy e)
  | .ok () =>
    evaluateRequirement (actionRequirement policy action) (policy.fetch "requirements") evidence

end BoardAccessPolicy

/-! ### Rules -/

namespace AccessRule

open BoardAccessPolicy

/-- The document reads as the rule. -/
structure Reads (j : Json) (r : AccessRule) : Prop where
  credentialType : j.fetch "credential_type" = .str r.credentialType
  configurationId : j.fetch "credential_configuration_id" = (r.configurationId.map .str).getD .null
  trustedIssuers : j.fetch "trusted_issuers" = .arr (r.trustedIssuers.map .str)
  claims : ∃ l, j.fetch "claims" = .arr l ∧ List.Forall₂ (fun claim p =>
    claim.fetch "op" = .str "equals" ∧ claim.fetch "path" = .str p.1 ∧ claim.fetch "value" = p.2)
    l r.claims

/-- The evidence is about a credential of the type and the configuration of the rule, by an issuer
that it trusts, bound to its holder and not revoked. -/
structure Presented (r : AccessRule) (evidence : Json) : Prop where
  credentialType : evidence.fetch "credential_type" = .str r.credentialType
  configurationId : ∀ id ∈ r.configurationId,
    evidence.fetch "credential_configuration_id" = .str id
  issuer : ∃ issuer ∈ r.trustedIssuers, evidence.fetch "issuer" = .str issuer
  holder : evidence.fetch "holder_bound" = .bool true
  status : evidence.fetch "status" = .str "active"

/-- The evidence is all that the rule demands. -/
structure MetBy (r : AccessRule) (evidence : Json) : Prop extends Presented r evidence where
  claims : ∀ p ∈ r.claims, ((evidenceClaims evidence).fetch p.1).eqv p.2 = true

/-! ### Rules that pass the checks can be read -/

theorem any_eq_true_of_require {j : Json} {key : String} {valid : Json → Bool} {e : PolicyError}
    {u : Unit} (h : require j key valid e = .ok u) : valid (j.fetch key) = true := by
  obtain ⟨v, hv, hvalid⟩ := (Option.any_eq_true _ _).1 (ensure_eq_ok.1 h)
  rw [Json.fetch, hv]
  exact hvalid

theorem exists_issuers {j : Json} (h : validIssuers j = true) :
    ∃ issuers : List String, j = .arr (issuers.map .str) := by
  unfold validIssuers at h
  split at h
  · next l =>
    rw [Bool.and_eq_true, List.all_eq_true] at h
    have hstr : ∀ l : List Json, (∀ v ∈ l, ∃ s, v = .str s) → ∃ t : List String,
      l = t.map .str := by
      intro l hl
      induction l with
      | nil => exact ⟨[], rfl⟩
      | cons v l ih =>
        obtain ⟨s, rfl⟩ := hl v (List.mem_cons_self ..)
        obtain ⟨t, rfl⟩ := ih fun w hw => hl w (List.mem_cons_of_mem _ hw)
        exact ⟨s :: t, rfl⟩
    obtain ⟨t, rfl⟩ := hstr l fun v hv => by
      obtain ⟨s, hs, -⟩ := (Option.any_eq_true _ _).1 (h.2 v hv)
      exact ⟨s, Json.str?_eq_some.1 hs⟩
    exact ⟨t, rfl⟩
  · cases h

theorem exists_claims {j : Json} (h : validClaims j = true) :
    ∃ l, j = .arr l ∧ ∃ claims : List (String × Json), List.Forall₂ (fun claim p =>
      claim.fetch "op" = .str "equals" ∧ claim.fetch "path" = .str p.1 ∧
        claim.fetch "value" = p.2) l claims := by
  unfold validClaims at h
  split at h
  · next l =>
    rw [Bool.and_eq_true, List.all_eq_true] at h
    replace h := h.2
    refine ⟨l, rfl, ?_⟩
    induction l with
    | nil => exact ⟨[], .nil⟩
    | cons claim l ih =>
      obtain ⟨claims, hclaims⟩ := ih fun c hc => h c (List.mem_cons_of_mem _ hc)
      have hclaim := h claim (List.mem_cons_self ..)
      simp only [Bool.and_eq_true] at hclaim
      obtain ⟨⟨-, hop⟩, hvalue⟩ := hclaim
      -- a value is valid only under a path that is a text
      unfold validClaimValue at hvalue
      split at hvalue
      · next path hpath =>
        exact ⟨(path, claim.fetch "value") :: claims,
          .cons ⟨Json.eqv_str_right.1 hop, hpath, rfl⟩ hclaims⟩
      · cases hvalue
  · cases h

/-- **A rule that passes the checks can be read.** -/
theorem exists_reads {j : Json} (h : validateRequirement j = .ok ()) :
    ∃ r : AccessRule, r.Reads j := by
  unfold validateRequirement at h
  split at h
  swap
  · cases h
  next fields =>
  obtain ⟨_, -, h⟩ := bind_eq_ok.1 h
  obtain ⟨_, htype, h⟩ := bind_eq_ok.1 h
  obtain ⟨_, hid, h⟩ := bind_eq_ok.1 h
  obtain ⟨_, hissuers, h⟩ := bind_eq_ok.1 h
  obtain ⟨_, hclaims, h⟩ := bind_eq_ok.1 h
  obtain ⟨type, htype, -⟩ := (Option.any_eq_true _ _).1 (any_eq_true_of_require htype)
  obtain ⟨issuers, hissuers⟩ := exists_issuers (any_eq_true_of_require hissuers)
  obtain ⟨l, hl, claims, hclaims⟩ := exists_claims (any_eq_true_of_require hclaims)
  have hid : ∃ id : Option String, (Json.obj fields).fetch "credential_configuration_id"
      = (id.map .str).getD .null := by
    unfold validateConfigurationId at hid
    split at hid
    · next hnull => exact ⟨none, hnull⟩
    · next s hs => exact ⟨some s, hs⟩
    · cases hid
  obtain ⟨id, hid⟩ := hid
  exact ⟨⟨type, id, issuers, claims⟩, Json.str?_eq_some.1 htype, hid, hissuers, l, hl, hclaims⟩

end AccessRule

namespace BoardAccessPolicy

open AccessRule

/-! ### What the evaluation of a rule grants -/

theorem eqv_bool_right {j : Json} {b : Bool} : j.eqv (.bool b) = true ↔ j = .bool b := by
  cases j <;> simp [Json.eqv]

theorem any_eqv_map_str {j : Json} {texts : List String} :
    (texts.map Json.str).any (j.eqv ·) = true ↔ ∃ s ∈ texts, j = .str s := by
  rw [List.any_eq_true]
  constructor
  · rintro ⟨v, hv, heqv⟩
    obtain ⟨s, hs, rfl⟩ := List.mem_map.1 hv
    exact ⟨s, hs, Json.eqv_str_right.1 heqv⟩
  · rintro ⟨s, hs, rfl⟩
    exact ⟨.str s, List.mem_map_of_mem hs, Json.eqv_str_right.2 rfl⟩

/-- The rules about claims that were read say when the claims satisfy those of the document. -/
theorem all_claimSatisfied {claims : Json} {l : List Json} {read : List (String × Json)}
    (h : List.Forall₂ (fun claim p => claim.fetch "op" = .str "equals" ∧
      claim.fetch "path" = .str p.1 ∧ claim.fetch "value" = p.2) l read) :
    l.all (claimSatisfied claims) = true ↔ ∀ p ∈ read, (claims.fetch p.1).eqv p.2 = true := by
  induction h with
  | nil => simp
  | cons hclaim _ ih =>
    obtain ⟨hop, hpath, hvalue⟩ := hclaim
    rw [List.all_cons, Bool.and_eq_true, ih, List.forall_mem_cons, claimSatisfied, hop, hpath,
      hvalue, claimValue, Json.eqv_str_right.2 rfl, Bool.true_and]

section Rule

variable {rule evidence : Json} {r : AccessRule} (h : r.Reads rule)
include h

/-- The checks before the claims, as the rule that was read has them. -/
theorem evaluateRule_cases :
    (r.Presented evidence ∧ evaluateRule rule evidence = (do
      let satisfied ← claimsSatisfied (rule.fetch "claims") (evidenceClaims evidence)
      ensure satisfied .claimNotSatisfied)) ∨
    (¬ r.Presented evidence ∧ ∃ e, e ≠ .raised ∧ evaluateRule rule evidence = .error e) := by
  unfold evaluateRule
  rw [h.credentialType, h.trustedIssuers, h.configurationId, memberOf]
  -- the checks in their order; the first that fails gives the error
  by_cases htype : evidence.fetch "credential_type" = .str r.credentialType
  swap
  · refine .inr ⟨fun hp => htype hp.credentialType, .credentialRequired, nofun, ?_⟩
    rw [Bool.eq_false_iff.2 fun heqv => htype (Json.eqv_str_right.1 heqv)]
    rfl
  rw [Json.eqv_str_right.2 htype]
  by_cases hid : ∀ id ∈ r.configurationId, evidence.fetch "credential_configuration_id" = .str id
  swap
  · refine .inr ⟨fun hp => hid hp.configurationId, .credentialRequired, nofun, ?_⟩
    cases hr : r.configurationId with
    | none =>
      rw [hr] at hid
      exact absurd (fun _ hmem => nomatch hmem) hid
    | some id =>
      have hne : evidence.fetch "credential_configuration_id" ≠ .str id := by
        intro heq
        refine hid fun x hx => ?_
        rw [hr] at hx
        rw [← Option.some.inj hx]
        exact heq
      rw [Option.map_some, Option.getD_some, Json.isNull_str, Bool.false_or,
        Bool.eq_false_iff.2 fun heqv => hne (Json.eqv_str_right.1 heqv)]
      rfl
  have hconfigured : (((r.configurationId.map Json.str).getD .null).isNull ||
      (evidence.fetch "credential_configuration_id").eqv
        ((r.configurationId.map Json.str).getD .null)) = true := by
    cases hr : r.configurationId with
    | none => rfl
    | some id =>
      rw [Option.map_some, Option.getD_some, Json.eqv_str_right.2 (hid id hr), Bool.or_true]
  rw [hconfigured]
  by_cases hissuer : ∃ issuer ∈ r.trustedIssuers, evidence.fetch "issuer" = .str issuer
  swap
  · refine .inr ⟨fun hp => hissuer hp.issuer, .issuerNotTrusted, nofun, ?_⟩
    rw [Bool.eq_false_iff.2 fun hany => hissuer (any_eqv_map_str.1 hany)]
    rfl
  rw [any_eqv_map_str.2 hissuer]
  by_cases hholder : evidence.fetch "holder_bound" = .bool true
  swap
  · refine .inr ⟨fun hp => hholder hp.holder, .holderBindingFailed, nofun, ?_⟩
    rw [Bool.eq_false_iff.2 fun heqv => hholder (eqv_bool_right.1 heqv)]
    rfl
  rw [eqv_bool_right.2 hholder]
  by_cases hstatus : evidence.fetch "status" = .str "active"
  swap
  · refine .inr ⟨fun hp => hstatus hp.status, .credentialRevoked, nofun, ?_⟩
    rw [Bool.eq_false_iff.2 fun heqv => hstatus (Json.eqv_str_right.1 heqv)]
    rfl
  rw [Json.eqv_str_right.2 hstatus]
  exact .inl ⟨⟨htype, hid, hissuer, hholder, hstatus⟩, rfl⟩

/-- The claims of a rule that was read are looked into exactly when they are a map. -/
theorem claimsSatisfied_eq : (claimsSatisfied (rule.fetch "claims") (evidenceClaims evidence) =
      .error .raised ∧ (evidenceClaims evidence).isObj = false) ∨
    ((evidenceClaims evidence).isObj = true ∧ ∃ b, claimsSatisfied (rule.fetch "claims")
      (evidenceClaims evidence) = .ok b ∧ (b = true ↔ ∀ p ∈ r.claims,
        ((evidenceClaims evidence).fetch p.1).eqv p.2 = true)) := by
  obtain ⟨l, hl, hclaims⟩ := h.claims
  rw [hl]
  cases hobj : evidenceClaims evidence with
  | obj fields => exact .inr ⟨rfl, _, rfl, all_claimSatisfied hclaims⟩
  | _ => exact .inl ⟨rfl, rfl⟩

/-- **What is granted is what the rule demands.** -/
theorem evaluateRule_eq_ok : evaluateRule rule evidence = .ok () ↔
    r.MetBy evidence ∧ (evidenceClaims evidence).isObj = true := by
  rcases @evaluateRule_cases rule evidence r h with ⟨hp, heq⟩ | ⟨hp, e, -, heq⟩
  · rw [heq]
    rcases @claimsSatisfied_eq rule evidence r h with ⟨hraised, hobj⟩ | ⟨hobj, b, hb, hmet⟩
    · rw [hraised, hobj]
      constructor
      · intro hok
        cases hok
      · rintro ⟨-, hok⟩
        cases hok
    · rw [hb]
      refine ensure_eq_ok.trans (hmet.trans ⟨fun hclaims => ⟨⟨hp, hclaims⟩, hobj⟩, fun hm => ?_⟩)
      exact hm.1.claims
  · rw [heq]
    constructor
    · intro hok
      cases hok
    · rintro ⟨hm, -⟩
      exact absurd hm.toPresented hp

theorem evaluateRule_eq_raised : evaluateRule rule evidence = .error .raised ↔
    r.Presented evidence ∧ (evidenceClaims evidence).isObj = false := by
  rcases @evaluateRule_cases rule evidence r h with ⟨hp, heq⟩ | ⟨hp, e, hne, heq⟩
  · rw [heq]
    rcases @claimsSatisfied_eq rule evidence r h with ⟨hraised, hobj⟩ | ⟨hobj, b, hb, -⟩
    · rw [hraised]
      exact ⟨fun _ => ⟨hp, hobj⟩, fun _ => rfl⟩
    · rw [hb]
      constructor
      · intro hraised
        have := (ensure_eq_error.1 hraised).2
        cases this
      · rintro ⟨-, hnot⟩
        rw [hobj] at hnot
        cases hnot
  · rw [heq]
    constructor
    · intro hraised
      exact absurd (Except.error.inj hraised) hne
    · rintro ⟨hm, -⟩
      exact absurd hm hp

end Rule

/-! ### What an accepted policy promises -/

theorem validateRequirement_of_mem {rules : List (String × Json)} (h : validateRules rules = .ok ())
    {p : String × Json} (hp : p ∈ rules) : validateRequirement p.2 = .ok () := by
  induction rules with
  | nil => exact absurd hp List.not_mem_nil
  | cons q rules ih =>
    obtain ⟨name, requirement⟩ := q
    unfold validateRules at h
    split at h
    · cases h
    obtain ⟨_, hfirst, h⟩ := bind_eq_ok.1 h
    rcases List.mem_cons.1 hp with rfl | hp
    · exact hfirst
    · exact ih h hp

/-- What the evaluation and the relay rely on in a policy that was accepted. -/
structure Promised (policy : Json) : Prop where
  rules : ∃ rules, policy.fetch "requirements" = .obj rules ∧ validateRules rules = .ok ()
  known : ∀ action, isKnown policy (actionRequirement policy action) = true
  isolated : policy.fetch "content_visibility" = .str "public" ∨
    policy.fetch "federation" = .str "disabled"

theorem promised_of_validate {encryptedBoardsEnabled : Bool} {policy : Json}
    (h : validate encryptedBoardsEnabled policy = .ok ()) : Promised policy := by
  have hknown : ∀ action, isKnown policy (actionRequirement policy action) = true := by
    intro action
    have hrequired : requirementFor encryptedBoardsEnabled policy action =
        .ok (actionRequirement policy action) := by
      rw [requirementFor, h]
      rfl
    exact requirementFor_known hrequired
  unfold validate at h
  split at h
  swap
  · cases h
  obtain ⟨_, -, h⟩ := bind_eq_ok.1 h
  obtain ⟨_, -, h⟩ := bind_eq_ok.1 h
  obtain ⟨_, -, h⟩ := bind_eq_ok.1 h
  obtain ⟨_, -, h⟩ := bind_eq_ok.1 h
  obtain ⟨_, -, h⟩ := bind_eq_ok.1 h
  obtain ⟨_, -, h⟩ := bind_eq_ok.1 h
  obtain ⟨_, hrules, h⟩ := bind_eq_ok.1 h
  obtain ⟨_, -, h⟩ := bind_eq_ok.1 h
  obtain ⟨_, -, h⟩ := bind_eq_ok.1 h
  obtain ⟨_, -, h⟩ := bind_eq_ok.1 h
  obtain ⟨_, -, hprivacy⟩ := bind_eq_ok.1 h
  refine ⟨?_, hknown, ?_⟩
  · unfold validateRequirements at hrules
    split at hrules
    · next rules heq => exact ⟨rules, heq, hrules⟩
    · cases hrules
  · unfold validatePrivacyCombination at hprivacy
    dsimp only at hprivacy
    split at hprivacy
    · cases hprivacy
    next hnot =>
    rw [Bool.and_eq_true, not_and_or, Bool.not_eq_true', Bool.not_eq_true', Bool.not_eq_false,
      Bool.not_eq_false] at hnot
    exact hnot.imp Json.eqv_str_right.1 Json.eqv_str_right.1

/-- The rule that an action requires can be read, unless the requirement is built in. -/
theorem Promised.exists_rule {policy : Json} (h : Promised policy) (action : Action) :
    oneOf builtInRequirements (actionRequirement policy action) = true ∨
    oneOf builtInRequirements (actionRequirement policy action) = false ∧
      ∃ name rule r, actionRequirement policy action = .str name ∧
        (policy.fetch "requirements").get? name = some rule ∧ AccessRule.Reads rule r := by
  cases hbuilt : oneOf builtInRequirements (actionRequirement policy action) with
  | true => exact .inl rfl
  | false =>
    have hknown := h.known action
    rw [isKnown, hbuilt, Bool.false_or, oneOf] at hknown
    obtain ⟨name, hname, hkey⟩ := (Option.any_eq_true _ _).1 hknown
    obtain ⟨rules, hrules, hvalid⟩ := h.rules
    rw [hrules, List.contains_iff_mem, Json.keys, List.mem_map] at hkey
    obtain ⟨p, hp, hpname⟩ := hkey
    obtain ⟨rule, hrule⟩ := Option.isSome_iff_exists.1
      (List.lookup_isSome_iff.2 ⟨p, hp, beq_iff_eq.2 hpname.symm⟩)
    obtain ⟨before, after, heq, -⟩ := List.lookup_eq_some_iff.1 hrule
    have hmem : (name, rule) ∈ rules := heq ▸ List.mem_append_right _ (List.mem_cons_self ..)
    obtain ⟨r, hr⟩ := exists_reads (validateRequirement_of_mem hvalid hmem)
    exact .inr ⟨rfl, name, rule, r, Json.str?_eq_some.1 hname, hrules ▸ hrule, hr⟩

/-- **What is expected of a policy that was accepted**, for an action and evidence: evaluating it
does not raise, what it requires is defined, a board that is not public is not federated, and what
is granted is demanded by nothing or met by the evidence. -/
structure AccessSound (encryptedBoardsEnabled : Bool) (policy : Json) (action : Action)
    (evidence : Json) : Prop where
  evaluates : evaluate encryptedBoardsEnabled policy action evidence ≠ .error .raised
  defined : ∀ action, isKnown policy (actionRequirement policy action) = true
  isolated : policy.fetch "content_visibility" ≠ .str "public" →
    policy.fetch "federation" ≠ .str "enabled"
  granted : evaluate encryptedBoardsEnabled policy action evidence = .ok () →
    oneOf builtInRequirements (actionRequirement policy action) = true ∨
    ∃ name rule r, actionRequirement policy action = .str name ∧
      (policy.fetch "requirements").get? name = some rule ∧ AccessRule.Reads rule r ∧
      r.MetBy evidence

/-- Evidence of a credential as the rule of the action wants it has a map of claims, or none. -/
def ClaimsReadable (policy : Json) (action : Action) (evidence : Json) : Prop :=
  ∀ name rule r, actionRequirement policy action = .str name →
    oneOf builtInRequirements (.str name) = false →
    (policy.fetch "requirements").get? name = some rule → AccessRule.Reads rule r →
    AccessRule.Presented r evidence → ∀ claims, evidence.get? "claims" = some claims →
      claims.isObj = true

theorem evidenceClaims_isObj {evidence : Json} : (evidenceClaims evidence).isObj = true ↔
    ∀ claims, evidence.get? "claims" = some claims → claims.isObj = true := by
  rw [evidenceClaims]
  cases evidence.get? "claims" with
  | none =>
    constructor
    · intro _ claims h
      cases h
    · intro _
      rfl
  | some claims => exact ⟨fun h _ hc => Option.some.inj hc ▸ h, fun h => h claims rfl⟩

theorem isObj_of_presented {r : AccessRule} {evidence : Json} (h : r.Presented evidence) :
    evidence.isObj = true := by
  have hstatus := h.status
  cases evidence with
  | obj fields => rfl
  | _ => cases hstatus

/-- **An accepted policy is evaluated soundly exactly when the claims of a credential that matches
its rule otherwise are a map.** -/
theorem access_sound_iff {encryptedBoardsEnabled : Bool} {policy : Json}
    (hvalid : validate encryptedBoardsEnabled policy = .ok ()) (action : Action) (evidence : Json) :
    AccessSound encryptedBoardsEnabled policy action evidence ↔
      ClaimsReadable policy action evidence := by
  have hp := promised_of_validate hvalid
  have heval : evaluate encryptedBoardsEnabled policy action evidence = evaluateRequirement
      (actionRequirement policy action) (policy.fetch "requirements") evidence := by
    rw [evaluate, hvalid]
  have hisolated : policy.fetch "content_visibility" ≠ .str "public" →
      policy.fetch "federation" ≠ .str "enabled" := by
    intro hprotected henabled
    have hdisabled := hp.isolated.resolve_left hprotected
    rw [henabled] at hdisabled
    exact absurd (Json.str.inj hdisabled) (by decide)
  rcases hp.exists_rule action with hbuilt | ⟨hbuilt, name, rule, r, hname, hrule, hr⟩
  · have hok : evaluate encryptedBoardsEnabled policy action evidence = .ok () := by
      rw [heval, evaluateRequirement, if_pos hbuilt]
    refine ⟨fun _ => ?_,
      fun _ => ⟨by rw [hok]; exact nofun, hp.known, hisolated, fun _ => .inl hbuilt⟩⟩
    intro name _ _ hname hnot
    rw [hname, hnot] at hbuilt
    cases hbuilt
  · have hobject : evidence.isObj = true → evaluate encryptedBoardsEnabled policy action evidence =
        evaluateRule rule evidence := by
      intro hobj
      have hfound : (actionRequirement policy action).str?.bind
          (policy.fetch "requirements").get? = some rule := by
        rw [hname]
        exact hrule
      rw [heval, evaluateRequirement, if_neg (by rw [hbuilt]; exact Bool.false_ne_true),
        if_pos hobj, hfound]
    constructor
    · -- reading the claims would raise
      intro hsound name' rule' r' hname' hbuilt' hrule' hr' hpresented claims hclaims
      obtain rfl : name = name' := Json.str.inj (hname.symm.trans hname')
      obtain rfl : rule = rule' := Option.some.inj (hrule.symm.trans hrule')
      by_contra hnot
      refine hsound.evaluates ((hobject (isObj_of_presented hpresented)).trans
        ((evaluateRule_eq_raised hr').2 ⟨hpresented, ?_⟩))
      rw [Bool.eq_false_iff]
      exact fun hobj => hnot (evidenceClaims_isObj.1 hobj claims hclaims)
    · intro hreadable
      cases hobj : evidence.isObj with
      | false =>
        have hrefused : evaluate encryptedBoardsEnabled policy action evidence =
            .error .credentialRequired := by
          rw [heval, evaluateRequirement, if_neg (by rw [hbuilt]; exact Bool.false_ne_true),
            if_neg (by rw [hobj]; exact Bool.false_ne_true)]
        -- evidence that is no map is refused before any claim is read
        refine ⟨by rw [hrefused]; exact nofun, hp.known, hisolated, fun hok => ?_⟩
        rw [hrefused] at hok
        cases hok
      | true =>
        refine ⟨fun hraised => ?_, hp.known, hisolated, fun hok => .inr ?_⟩
        · rw [hobject hobj] at hraised
          obtain ⟨hpresented, hnot⟩ := (evaluateRule_eq_raised hr).1 hraised
          have := evidenceClaims_isObj.2
            (hreadable name rule r hname (hname ▸ hbuilt) hrule hr hpresented)
          rw [hnot] at this
          cases this
        · rw [hobject hobj] at hok
          exact ⟨name, rule, r, hname, hrule, hr, ((evaluateRule_eq_ok hr).1 hok).1⟩

/-! ### A board for members -/

/-- Members of a party read, with a credential that is not revoked. -/
def toyMembersPolicy : Json := default.merge
  [("discovery", .str "credential_required"), ("read", .obj [("requirement", .str "member")]),
    ("requirements", .obj [("member", .obj
      [("credential_type", .str "PartyMembershipCredential"),
        ("trusted_issuers", .arr [.str "did:elix:org:ntp"]),
        ("claims", .arr [.obj [("path", .str "membership"), ("op", .str "equals"),
          ("value", .bool true)]]),
        ("holder_binding", .str "required"),
        ("status", .obj [("required", .bool true), ("max_age_seconds", .int 300)])])]),
    ("content_visibility", .str "host_visible"), ("federation", .str "disabled")]

def toyEvidence (claims : Json) : Json :=
  .obj [("credential_type", .str "PartyMembershipCredential"), ("issuer", .str "did:elix:org:ntp"),
    ("holder_bound", .bool true), ("status", .str "active"), ("claims", claims)]

theorem validate_toyMembersPolicy : validate false toyMembersPolicy = .ok () := by
  decide +kernel

theorem access_sound_toy : AccessSound false toyMembersPolicy .read
    (toyEvidence (.obj [("membership", .bool true)])) := by
  refine (access_sound_iff validate_toyMembersPolicy .read _).2 ?_
  intro _ _ _ _ _ _ _ _ claims hclaims
  obtain rfl : Json.obj [("membership", .bool true)] = claims := Option.some.inj hclaims
  rfl

/-- Evidence whose claims are `null` matches the rule otherwise, and its evaluation raises. -/
theorem evaluate_raises : validate false toyMembersPolicy = .ok () ∧
    evaluate false toyMembersPolicy .read (toyEvidence .null) = .error .raised ∧
    ¬ AccessSound false toyMembersPolicy .read (toyEvidence .null) := by
  have hraised : evaluate false toyMembersPolicy .read (toyEvidence .null) = .error .raised := by
    rw [evaluate, validate_toyMembersPolicy]
    rfl
  exact ⟨validate_toyMembersPolicy, hraised, fun h => h.evaluates hraised⟩

end BoardAccessPolicy

end Ansible
