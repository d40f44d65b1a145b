import Ansible.Client.VerifierAgreement
import Ansible.Lib.Assoc
import Ansible.Lib.Prefixes

/-!
# Resolving from several relays

The app asks every relay for the chain of a DID, leaves out what is not verified, and takes the
longest of the chains unless two of them differ.  The content identifiers of the chain are kept
as a checkpoint, and a later chain has to extend them.

An identifier is the hash of the signed body.  The signatures are not in the body, so two relays
can serve one chain with different ones; of chains with the same identifiers the app returns that
of the first relay.

## Main definitions

* `Client.resolveFromRelay` — the verified chain of one relay.
* `Client.selectConsistentLongest` — the longest of the chains.
* `Client.resolve` — a resolution with its checkpoint; `resolveStep` — one after the other.

## Main results

* `Client.resolver_consistent` — **a resolution returns the longest of chains that extend one
  another, with the same signed bodies whatever the order of the relays, and later ones extend
  it.**
* `Client.resolve_order` — the order of the relays decides which signatures are returned.
-/

namespace Ansible

namespace Client

/-- What comes back for a request: the status and the decoded body, if it is JSON. -/
inductive Reply
  | unreachable
  | response (status : ℕ) (body : Option Json)

/-- A relay with its replies to the requests for the chain and for the active anchor of a DID. -/
structure RelayReplies where
  relay : String
  chain : Reply
  active : Reply

structure ResolvedIdentity where
  anchor : IdentityAnchor
  chain : List IdentityAnchor
  resolvedVia : String

/-- The identifiers of the chain, `none` where the computation throws. -/
def ResolvedIdentity.cids (P : Platform) (r : ResolvedIdentity) : Option (List String) :=
  r.chain.mapM (IdentityAnchor.computeCid P)

/-! ### One relay -/

/-- The address of a relay without a slash at its end. -/
def baseOf (relay : String) : String :=
  if (chars relay).getLast? = some '/' then String.ofList (chars relay).dropLast else relay

/-- The anchors of a response, when they are read and verified. -/
def verifiedAnchors (P : Platform) (toUtc : ℤ → ℤ) (did : String) (objects : List Json) :
    Option (List IdentityAnchor) :=
  if objects.all Json.isObj = true then do
    let anchors ← objects.mapM (IdentityAnchor.fromMap toUtc)
    if verifiedChain P did anchors objects = some true then some anchors else none
  else none

/-- A relay without chains can serve a genesis that has not been rotated. -/
def resolveActive (P : Platform) (toUtc : ℤ → ℤ) (did : String) :
    Reply → Option (List IdentityAnchor)
  | .response 200 (some (.obj raw)) => do
    let anchors ← verifiedAnchors P toUtc did [.obj raw]
    let anchor ← anchors.head?
    if anchor.schemaVersion < 4 ∧ anchor.reason = .initial ∧ anchor.prevAnchorCid = none then
      some [anchor]
    else none
  | _ => none

/-- The verified chain of a relay. -/
def chainOf (P : Platform) (toUtc : ℤ → ℤ) (did : String) (r : RelayReplies) :
    Option (List IdentityAnchor) :=
  match r.chain with
  | .unreachable => none
  | .response 200 (some (.obj decoded)) =>
    match (Json.obj decoded).fetch "anchors" with
    | .arr objects => verifiedAnchors P toUtc did objects
    | _ => none
  | .response 200 _ => none
  | .response _ _ => resolveActive P toUtc did r.active

/-- `_resolveFromRelay`: nothing for a relay that is skipped. -/
def resolveFromRelay (P : Platform) (toUtc : ℤ → ℤ) (did : String) (r : RelayReplies) :
    Option ResolvedIdentity := do
  let chain ← chainOf P toUtc did r
  let anchor ← chain.getLast?
  return { anchor, chain, resolvedVia := baseOf r.relay }

/-- The verified chains, in the order of the relays. -/
def candidates (P : Platform) (toUtc : ℤ → ℤ) (did : String) (relays : List RelayReplies) :
    List ResolvedIdentity := relays.filterMap (resolveFromRelay P toUtc did)

/-! ### The selection -/

/-- The loop of `_selectConsistentLongest`: `none` where it throws, and no chain when two of
them differ. -/
def selectFrom (P : Platform) (selected : ResolvedIdentity) (selectedCids : List String) :
    List ResolvedIdentity → Option (Option ResolvedIdentity)
  | [] => some (some selected)
  | candidate :: rest => do
    let candidateCids ← candidate.cids P
    if selectedCids.isPrefixOf candidateCids then
      if selectedCids.length < candidateCids.length then selectFrom P candidate candidateCids rest
      else selectFrom P selected selectedCids rest
    else if candidateCids.isPrefixOf selectedCids then selectFrom P selected selectedCids rest
    else return none

/-- `_selectConsistentLongest` -/
def selectConsistentLongest (P : Platform) :
    List ResolvedIdentity → Option (Option ResolvedIdentity)
  | [] => some none
  | first :: rest => do selectFrom P first (← first.cids P) rest

/-! ### Resolutions -/

abbrev Checkpoints := Assoc String (List String)

/-- `resolve`: `none` where it throws, else the identity, if there is one, and the checkpoints. -/
def resolve (P : Platform) (toUtc : ℤ → ℤ) (did : String) (relays : List RelayReplies)
    (s : Checkpoints) : Option (Option ResolvedIdentity) × Checkpoints :=
  match selectConsistentLongest P (candidates P toUtc did relays) with
  | none => (none, s)
  | some none => (some none, s)
  | some (some selected) =>
    match selected.cids P with
    | none => (none, s)
    | some cids =>
      if (s.lookup did).all fun checkpoint => checkpoint.isPrefixOf cids then
        (some (some selected), s.insert did cids)
      else (some none, s)

/-- A resolution of a DID with what the relays answer. -/
def resolveStep (P : Platform) (toUtc : ℤ → ℤ) (s : Checkpoints)
    (a : String × List RelayReplies) : Checkpoints := (resolve P toUtc a.1 a.2 s).2

/-! ### Verified chains have identifiers -/

variable {P : Platform} {did : String} {anchors : List IdentityAnchor} {toUtc : ℤ → ℤ}
  {relays : List RelayReplies} {l : List ResolvedIdentity} {lists : List (List String)}
  {s : Checkpoints} {cids : List String}

theorem body_of_verifyAnchor {anchor : IdentityAnchor} (h : verifyAnchor P anchor = some true) :
    ∃ cid, anchor.computeCid P = some cid := by
  rw [verifyAnchor] at h
  obtain ⟨body, hbody, -⟩ := Option.bind_eq_some_iff.1 h
  rw [IdentityAnchor.computeCid, hbody]
  exact ⟨_, rfl⟩

theorem verifyAnchor_of_verifiedFrom {commitment : Option Json} {previous : Option IdentityAnchor}
    {anchor : IdentityAnchor} {raw : Json} {l : List (IdentityAnchor × Json)}
    (h : verifiedFrom P commitment previous ((anchor, raw) :: l) = some true) :
    verifyAnchor P anchor = some true ∧ verifiedFrom P commitment (some anchor) l = some true := by
  unfold verifiedFrom at h
  simp only [Option.bind_eq_bind, Option.pure_def] at h
  obtain ⟨_, -, h⟩ := Option.bind_eq_some_iff.1 h
  split at h
  · cases h
  split at h
  · cases h
  obtain ⟨verified, hverified, h⟩ := Option.bind_eq_some_iff.1 h
  split at h
  · cases h
  next hnot =>
  rw [Bool.not_eq_true', Bool.not_eq_false] at hnot
  subst hnot
  refine ⟨hverified, ?_⟩
  split at h
  · exact h
  · obtain ⟨_, -, h⟩ := Option.bind_eq_some_iff.1 h
    obtain ⟨_, -, h⟩ := Option.bind_eq_some_iff.1 h
    split at h
    · exact h
    · cases h

theorem computeCid_of_verifiedFrom {commitment : Option Json} {previous : Option IdentityAnchor}
    {l : List (IdentityAnchor × Json)} (h : verifiedFrom P commitment previous l = some true) :
    ∀ x ∈ l, ∃ cid, x.1.computeCid P = some cid := by
  induction l generalizing previous with
  | nil => simp
  | cons x l ih =>
    obtain ⟨hfirst, hrest⟩ := verifyAnchor_of_verifiedFrom h
    exact List.forall_mem_cons.2 ⟨body_of_verifyAnchor hfirst, ih hrest⟩

theorem cids_of_verifiedChain {objects : List Json}
    (h : verifiedChain P did anchors objects = some true) :
    ∀ a ∈ anchors, ∃ cid, a.computeCid P = some cid := by
  cases anchors with
  | nil => simp
  | cons genesis rest =>
    rw [verifiedChain] at h
    split at h
    · cases h
    next hlength =>
    simp only [Option.bind_eq_bind, Option.pure_def] at h
    obtain ⟨_, -, h⟩ := Option.bind_eq_some_iff.1 h
    split at h
    · cases h
    split at h
    · cases h
    obtain ⟨_, -, h⟩ := Option.bind_eq_some_iff.1 h
    split at h
    · cases h
    intro a ha
    have hlen : (genesis :: rest).length = objects.length := not_not.1 hlength
    obtain ⟨n, hn, rfl⟩ := List.getElem_of_mem ha
    have hmem : ((genesis :: rest)[n], objects[n]) ∈ (genesis :: rest).zip objects :=
      List.mem_iff_getElem.2 ⟨n, by simp [← hlen]; simpa using hn, List.getElem_zip⟩
    exact computeCid_of_verifiedFrom h _ hmem

theorem exists_cids (h : ∀ a ∈ anchors, ∃ cid, a.computeCid P = some cid) :
    ∃ cids, anchors.mapM (IdentityAnchor.computeCid P) = some cids := by
  obtain ⟨cids, hcids, -⟩ := exists_mapM (g := id) (R := fun _ _ => True)
    fun a ha => (h a ha).imp fun _ hcid => ⟨hcid, trivial⟩
  rw [List.map_id] at hcids
  exact ⟨cids, hcids⟩

theorem cids_of_verifiedAnchors {objects : List Json}
    (h : verifiedAnchors P toUtc did objects = some anchors) :
    ∀ a ∈ anchors, ∃ cid, a.computeCid P = some cid := by
  rw [verifiedAnchors] at h
  split at h
  · obtain ⟨read, -, h⟩ := Option.bind_eq_some_iff.1 h
    split at h
    · next hverified =>
      cases h
      exact cids_of_verifiedChain hverified
    · cases h
  · cases h

theorem cids_of_resolveActive {r : Reply} (h : resolveActive P toUtc did r = some anchors) :
    ∀ a ∈ anchors, ∃ cid, a.computeCid P = some cid := by
  unfold resolveActive at h
  split at h
  · obtain ⟨read, hread, h⟩ := Option.bind_eq_some_iff.1 h
    obtain ⟨anchor, hhead, h⟩ := Option.bind_eq_some_iff.1 h
    split at h
    · cases h
      intro a ha
      rw [List.mem_singleton.1 ha]
      exact cids_of_verifiedAnchors hread anchor (List.mem_of_head? hhead)
    · cases h
  · cases h

variable {c r : ResolvedIdentity}

theorem cids_of_resolveFromRelay {r : RelayReplies} (h : resolveFromRelay P toUtc did r = some c) :
    ∃ cids, c.cids P = some cids := by
  rw [resolveFromRelay] at h
  obtain ⟨chain, hchain, h⟩ := Option.bind_eq_some_iff.1 h
  obtain ⟨anchor, -, h⟩ := Option.bind_eq_some_iff.1 h
  cases h
  refine exists_cids ?_
  unfold chainOf at hchain
  split at hchain
  · cases hchain
  · split at hchain
    · exact cids_of_verifiedAnchors hchain
    · cases hchain
  · cases hchain
  · exact cids_of_resolveActive hchain

theorem cids_of_candidate (h : c ∈ candidates P toUtc did relays) :
    ∃ cids, c.cids P = some cids := by
  obtain ⟨r, -, hr⟩ := List.mem_filterMap.1 h
  exact cids_of_resolveFromRelay hr

/-! ### What is selected -/

theorem exists_cidLists (h : ∀ c ∈ l, ∃ cids, c.cids P = some cids) :
    ∃ lists, List.Forall₂ (fun c cids => c.cids P = some cids) l lists := by
  induction l with
  | nil => exact ⟨[], .nil⟩
  | cons c l ih =>
    obtain ⟨cids, hcids⟩ := h c List.mem_cons_self
    obtain ⟨lists, hlists⟩ := ih fun x hx => h x (List.mem_cons_of_mem c hx)
    exact ⟨cids :: lists, .cons hcids hlists⟩

theorem exists_candidateLists (P : Platform) (toUtc : ℤ → ℤ) (did : String)
    (relays : List RelayReplies) : ∃ lists,
      List.Forall₂ (fun c cids => c.cids P = some cids) (candidates P toUtc did relays) lists :=
  exists_cidLists fun _ hc => cids_of_candidate hc

/-- The first of the chains with the identifiers. -/
def firstWith (P : Platform) (l : List ResolvedIdentity) (cids : List String) :
    Option ResolvedIdentity := l.find? fun c => c.cids P == some cids

theorem firstWith_eq_some (h : firstWith P l cids = some r) : r ∈ l ∧ r.cids P = some cids :=
  ⟨List.mem_of_find?_eq_some h, beq_iff_eq.1 (List.find?_some h :)⟩

theorem firstWith_cons_of_ne (h : c.cids P ≠ some cids) :
    firstWith P (c :: l) cids = firstWith P l cids :=
  List.find?_cons_of_neg (by simpa using h)

/-- A chain that the selected one extends is not looked at. -/
theorem firstWith_skip {selected : ResolvedIdentity} {selectedCids m : List String}
    (hselected : selected.cids P = some selectedCids) (hc : c.cids P = some cids)
    (hpref : cids <+: selectedCids) (hm : selectedCids <+: m) :
    firstWith P (selected :: c :: l) m = firstWith P (selected :: l) m := by
  by_cases heq : selectedCids = m
  · simp [firstWith, hselected, heq]
  · have hne : selected.cids P ≠ some m := by simpa [hselected] using heq
    have hne' : c.cids P ≠ some m := by
      rw [hc, Ne, Option.some.injEq]
      rintro rfl
      exact heq (hm.eq_of_length_le hpref.length_le)
    rw [firstWith_cons_of_ne hne, firstWith_cons_of_ne hne, firstWith_cons_of_ne hne']

theorem selectFrom_eq {selected : ResolvedIdentity} {selectedCids : List String}
    (hselected : selected.cids P = some selectedCids)
    (h : List.Forall₂ (fun c cids => c.cids P = some cids) l lists) :
    selectFrom P selected selectedCids l
      = some ((longestFrom selectedCids lists).bind (firstWith P (selected :: l))) := by
  induction h generalizing selected selectedCids with
  | nil => simp [selectFrom, longestFrom, firstWith, hselected]
  | @cons c cids l lists hc h ih =>
    -- what is longest extends the selected chain
    have hextends : ∀ {best m : List String}, longestFrom best lists = some m → best <+: m :=
      fun hm => (longestFrom_eq_some_iff.1 hm).2 _ List.mem_cons_self
    have hkept : cids <+: selectedCids → selectFrom P selected selectedCids l
        = some ((longestFrom selectedCids lists).bind (firstWith P (selected :: c :: l))) := by
      intro hpref
      rw [ih hselected]
      refine congrArg some (Option.bind_congr fun m hm => ?_)
      exact (firstWith_skip hselected hc hpref (hextends hm)).symm
    rw [selectFrom, longestFrom, hc]
    simp only [Option.bind_eq_bind, Option.bind_some, List.isPrefixOf_iff_prefix]
    split
    · next hpref =>
      split
      · next hlt =>
        rw [ih hc]
        refine congrArg some (Option.bind_congr fun m hm => (firstWith_cons_of_ne ?_).symm)
        rw [hselected, Ne, Option.some.injEq]
        rintro rfl
        exact absurd (hextends hm).length_le (Nat.not_le.2 hlt)
      · next hle => exact hkept (hpref.eq_of_length_le (Nat.not_lt.1 hle) ▸ List.prefix_rfl)
    · split
      · next hpref => exact hkept hpref
      · rfl

/-- **The selected chain is the first of those with the longest list of identifiers.** -/
theorem selectConsistentLongest_eq (h : List.Forall₂ (fun c cids => c.cids P = some cids) l lists) :
    selectConsistentLongest P l = some ((longest? lists).bind (firstWith P l)) := by
  cases h with
  | nil => rfl
  | @cons c cids l lists hc h =>
    rw [selectConsistentLongest, hc]
    exact selectFrom_eq hc h

/-! ### One resolution -/

/-- The chain extends the checkpoint, where there is one. -/
def Extends (s : Checkpoints) (did : String) (cids : List String) : Prop :=
  ∀ checkpoint, s.lookup did = some checkpoint → checkpoint <+: cids

theorem all_isPrefixOf_iff :
    ((s.lookup did).all fun checkpoint => checkpoint.isPrefixOf cids) = true ↔
      Extends s did cids := by
  rw [Option.all_eq_true]
  simp only [List.isPrefixOf_iff_prefix]
  rfl

theorem exists_firstWith (h : List.Forall₂ (fun c cids => c.cids P = some cids) l lists)
    (hlongest : longest? lists = some cids) : ∃ r, firstWith P l cids = some r := by
  obtain ⟨c, hc, hcids⟩ := exists_of_mem_left h.flip (longest?_eq_some_iff.1 hlongest).1
  exact Option.isSome_iff_exists.1 (List.find?_isSome.2 ⟨c, hc, beq_iff_eq.2 hcids⟩)

/-- **A resolution returns the first longest chain and stores its identifiers, when they extend
the checkpoint, and else changes nothing.** -/
theorem resolve_cases
    (h : List.Forall₂ (fun c cids => c.cids P = some cids) (candidates P toUtc did relays) lists) :
    (resolve P toUtc did relays s = (some none, s) ∧
        ∀ cids, longest? lists = some cids → ¬ Extends s did cids) ∨
      ∃ r cids, longest? lists = some cids ∧
        firstWith P (candidates P toUtc did relays) cids = some r ∧ Extends s did cids ∧
        resolve P toUtc did relays s = (some (some r), s.insert did cids) := by
  rw [resolve, selectConsistentLongest_eq h]
  cases hlongest : longest? lists with
  | none => exact .inl ⟨rfl, fun cids hcids => absurd hcids (by simp)⟩
  | some cids =>
    obtain ⟨r, hr⟩ := exists_firstWith h hlongest
    rw [Option.bind_some, hr]
    dsimp only
    rw [(firstWith_eq_some hr).2]
    dsimp only
    split
    · next hextends => exact .inr ⟨r, cids, rfl, hr, all_isPrefixOf_iff.1 hextends, rfl⟩
    · next hnot =>
      refine .inl ⟨rfl, fun cids' hcids' hextends => hnot (all_isPrefixOf_iff.2 ?_)⟩
      rwa [Option.some.inj hcids']

/-- A resolution that returns a chain. -/
theorem resolve_eq_some {s' : Checkpoints} (h : resolve P toUtc did relays s = (some (some r), s'))
    :
    ∃ lists cids, List.Forall₂ (fun c cids => c.cids P = some cids)
        (candidates P toUtc did relays) lists ∧ longest? lists = some cids ∧
      firstWith P (candidates P toUtc did relays) cids = some r ∧ Extends s did cids ∧
      s' = s.insert did cids := by
  obtain ⟨lists, hlists⟩ := exists_candidateLists P toUtc did relays
  rcases resolve_cases (s := s) hlists with ⟨heq, -⟩ | ⟨r', cids, hlongest, hr', hext, heq⟩
  · rw [heq] at h
    cases h
  · rw [heq] at h
    obtain ⟨hres, rfl⟩ := Prod.mk.inj h
    obtain rfl := Option.some.inj (Option.some.inj hres)
    exact ⟨lists, cids, hlists, hlongest, hr', hext, rfl⟩

theorem resolveStep_extends (P : Platform) (toUtc : ℤ → ℤ) (s : Checkpoints)
    (a : String × List RelayReplies) (h : s.lookup did = some cids) :
    ∃ cids', (resolveStep P toUtc s a).lookup did = some cids' ∧ cids <+: cids' := by
  obtain ⟨lists, hlists⟩ := exists_candidateLists P toUtc a.1 a.2
  rcases resolve_cases (s := s) hlists with ⟨heq, -⟩ | ⟨r, new, -, -, hext, heq⟩
  · rw [resolveStep, heq]
    exact ⟨cids, h, List.prefix_rfl⟩
  · rw [resolveStep, heq, Assoc.lookup_insert']
    split
    · next hdid =>
      subst hdid
      exact ⟨new, rfl, hext cids h⟩
    · exact ⟨cids, h, List.prefix_rfl⟩

theorem exec_resolveStep_extends (P : Platform) (toUtc : ℤ → ℤ)
    (as : List (String × List RelayReplies)) (h : s.lookup did = some cids) :
    ∃ cids', (exec (resolveStep P toUtc) s as).lookup did = some cids' ∧ cids <+: cids' := by
  refine exec_invariant
    (I := fun t : Checkpoints => ∃ cids', t.lookup did = some cids' ∧ cids <+: cids') ?_
    ⟨cids, h, List.prefix_rfl⟩ as
  rintro t a ⟨cids', hcids', hpref⟩
  obtain ⟨cids'', hcids'', hpref'⟩ := resolveStep_extends P toUtc t a hcids'
  exact ⟨cids'', hcids'', hpref.trans hpref'⟩

/-! ### The order of the relays -/

theorem perm_of_forall₂ {l' : List ResolvedIdentity} {lists' : List (List String)} (hl : l.Perm l')
    (h : List.Forall₂ (fun c cids => c.cids P = some cids) l lists)
    (h' : List.Forall₂ (fun c cids => c.cids P = some cids) l' lists') : lists.Perm lists' := by
  have hmap : ∀ {l : List ResolvedIdentity} {lists : List (List String)},
      List.Forall₂ (fun c cids => c.cids P = some cids) l lists →
        l.filterMap (·.cids P) = lists := by
    intro l lists h
    induction h with
    | nil => rfl
    | cons hc _ ih => rw [List.filterMap_cons, hc, ih]
  rw [← hmap h, ← hmap h']
  exact hl.filterMap _

/-- A resolution from the relays in another order returns a chain of the same identifiers and
stores the same checkpoint. -/
theorem resolve_of_perm {relays' : List RelayReplies} (h : relays.Perm relays') {s' : Checkpoints}
    (hr : resolve P toUtc did relays s = (some (some r), s')) :
    ∃ r', resolve P toUtc did relays' s = (some (some r'), s') ∧
      r' ∈ candidates P toUtc did relays' ∧ r'.cids P = r.cids P := by
  obtain ⟨lists, cids, hlists, hlongest, hfirst, hext, rfl⟩ := resolve_eq_some hr
  obtain ⟨lists', hlists'⟩ := exists_candidateLists P toUtc did relays'
  have hperm := longest?_eq_of_perm (perm_of_forall₂ (h.filterMap _) hlists hlists')
  rcases resolve_cases (s := s) hlists' with ⟨-, hnot⟩ | ⟨r', cids', hlongest', hfirst', -, heq⟩
  · exact absurd hext (hnot cids (hperm.symm.trans hlongest))
  · obtain rfl : cids = cids' := Option.some.inj (hlongest.symm.trans (hperm.trans hlongest'))
    obtain ⟨hmem, hcids⟩ := firstWith_eq_some hfirst'
    exact ⟨r', heq, hmem, hcids.trans (firstWith_eq_some hfirst).2.symm⟩

/-- No two anchors of the chains have one identifier and different signed bodies. -/
def Collisionless (P : Platform) (l : List ResolvedIdentity) : Prop :=
  ∀ c ∈ l, ∀ a ∈ c.chain, ∀ c' ∈ l, ∀ a' ∈ c'.chain,
    a.computeCid P = a'.computeCid P → a.canonicalBodyJson = a'.canonicalBodyJson

theorem bodies_of_cids {l l' : List IdentityAnchor}
    (h : l.mapM (IdentityAnchor.computeCid P) = some cids)
    (h' : l'.mapM (IdentityAnchor.computeCid P) = some cids)
    (hfree : ∀ a ∈ l, ∀ a' ∈ l', a.computeCid P = a'.computeCid P →
      a.canonicalBodyJson = a'.canonicalBodyJson) :
    l.map (·.canonicalBodyJson) = l'.map (·.canonicalBodyJson) := by
  induction l generalizing l' cids with
  | nil =>
    cases h
    cases l' with
    | nil => rfl
    | cons a' l' => simp [Option.bind_eq_some_iff] at h'
  | cons a l ih =>
    simp only [List.mapM_cons, Option.bind_eq_bind, Option.bind_eq_some_iff, Option.pure_def,
      Option.some.injEq] at h
    obtain ⟨cid, hcid, rest, hrest, rfl⟩ := h
    cases l' with
    | nil => simp at h'
    | cons a' l' =>
      simp only [List.mapM_cons, Option.bind_eq_bind, Option.bind_eq_some_iff, Option.pure_def,
        Option.some.injEq, List.cons.injEq] at h'
      obtain ⟨_, hcid', _, hrest', rfl, rfl⟩ := h'
      rw [List.map_cons, List.map_cons, ih hrest hrest' fun x hx y hy =>
          hfree x (List.mem_cons_of_mem a hx) y (List.mem_cons_of_mem a' hy),
        hfree a List.mem_cons_self a' List.mem_cons_self (hcid.trans hcid'.symm)]

/-! ### The law -/

/-- What holds of all resolutions, one after the other. -/
structure ResolverLaw (P : Platform) (toUtc : ℤ → ℤ) : Prop where
  /-- A chain is returned when the verified ones extend one another, -/
  comparable : ∀ did relays s r s', resolve P toUtc did relays s = (some (some r), s') →
    ∀ c ∈ candidates P toUtc did relays, ∀ c' ∈ candidates P toUtc did relays,
      ∃ cids cids', c.cids P = some cids ∧ c'.cids P = some cids' ∧
        (cids <+: cids' ∨ cids' <+: cids)
  /-- it is the first of the longest ones, and becomes the checkpoint, which extends the one
  before. -/
  longest : ∀ did relays s r s', resolve P toUtc did relays s = (some (some r), s') →
    ∃ cids, r.cids P = some cids ∧ firstWith P (candidates P toUtc did relays) cids = some r ∧
      (∀ c ∈ candidates P toUtc did relays, ∃ cids', c.cids P = some cids' ∧ cids' <+: cids) ∧
      Extends s did cids ∧ s'.lookup did = some cids
  /-- From the relays in another order a chain of the same identifiers is returned, with the same
  checkpoint; -/
  order : ∀ did relays relays' s r s', relays.Perm relays' →
    resolve P toUtc did relays s = (some (some r), s') →
      ∃ r', resolve P toUtc did relays' s = (some (some r'), s') ∧ r'.cids P = r.cids P
  /-- its anchors have the same signed bodies, unless two that are served collide. -/
  bodies : ∀ did relays relays' s r s' r' s'', relays.Perm relays' →
    Collisionless P (candidates P toUtc did relays) →
    resolve P toUtc did relays s = (some (some r), s') →
    resolve P toUtc did relays' s = (some (some r'), s'') →
      r'.chain.map (·.canonicalBodyJson) = r.chain.map (·.canonicalBodyJson)
  /-- A checkpoint is replaced only by one that extends it, -/
  grows : ∀ s as did cids, s.lookup did = some cids →
    ∃ cids', (exec (resolveStep P toUtc) s as).lookup did = some cids' ∧ cids <+: cids'
  /-- so what is returned later extends what was returned before. -/
  later : ∀ s did relays r s' as relays' r' s'',
    resolve P toUtc did relays s = (some (some r), s') →
    resolve P toUtc did relays' (exec (resolveStep P toUtc) s' as) = (some (some r'), s'') →
      ∃ cids cids', r.cids P = some cids ∧ r'.cids P = some cids' ∧ cids <+: cids'

/-- **A resolution returns the longest of chains that extend one another, with the same signed
bodies whatever the order of the relays, and every later one extends it.**

The loop keeps the best chain so far, so what it selects is the list that has the lists of all
candidates as prefixes; this list does not depend on their order. -/
theorem resolver_consistent (P : Platform) (toUtc : ℤ → ℤ) : ResolverLaw P toUtc where
  comparable := by
    intro did relays s r s' h c hc c' hc'
    obtain ⟨lists, cids, hlists, hlongest, -, -, -⟩ := resolve_eq_some h
    obtain ⟨a, ha, hca⟩ := exists_of_mem_left hlists hc
    obtain ⟨b, hb, hcb⟩ := exists_of_mem_left hlists hc'
    exact ⟨a, b, hca, hcb, comparable_of_longest? hlongest ha hb⟩
  longest := by
    intro did relays s r s' h
    obtain ⟨lists, cids, hlists, hlongest, hfirst, hext, rfl⟩ := resolve_eq_some h
    refine ⟨cids, (firstWith_eq_some hfirst).2, hfirst, fun c hc => ?_, hext,
      AList.lookup_insert s⟩
    obtain ⟨a, ha, hca⟩ := exists_of_mem_left hlists hc
    exact ⟨a, hca, (longest?_eq_some_iff.1 hlongest).2 a ha⟩
  order := by
    intro did relays relays' s r s' hperm h
    obtain ⟨r', hr', -, hcids⟩ := resolve_of_perm hperm h
    exact ⟨r', hr', hcids⟩
  bodies := by
    intro did relays relays' s r s' r' s'' hperm hfree h h'
    obtain ⟨r₁, hr₁, hmem', hcids⟩ := resolve_of_perm hperm h
    obtain rfl : r₁ = r' :=
      Option.some.inj (Option.some.inj (Prod.mk.inj (hr₁.symm.trans h')).1)
    obtain ⟨_, cids, -, -, hfirst, -, -⟩ := resolve_eq_some h
    obtain ⟨hmem, hr⟩ := firstWith_eq_some hfirst
    have hcandidate : r₁ ∈ candidates P toUtc did relays :=
      (hperm.filterMap _).mem_iff.2 hmem'
    exact bodies_of_cids (hcids.trans hr) hr fun a ha a' ha' =>
      hfree r₁ hcandidate a ha r hmem a' ha'
  grows := fun _ as _ _ h => exec_resolveStep_extends P toUtc as h
  later := by
    intro s did relays r s' as relays' r' s'' h h'
    obtain ⟨_, cids, -, -, hfirst, -, rfl⟩ := resolve_eq_some h
    obtain ⟨_, cids', -, -, hfirst', hext, -⟩ := resolve_eq_some h'
    obtain ⟨stored, hstored, hpref⟩ :=
      exec_resolveStep_extends P toUtc as (AList.lookup_insert s)
    exact ⟨cids, cids', (firstWith_eq_some hfirst).2, (firstWith_eq_some hfirst').2,
      hpref.trans (hext stored hstored)⟩

open AnchorStore

/-- A relay that serves one anchor as the chain. -/
def toyReplies (relay : String) (anchor : Json) : RelayReplies where
  relay := relay
  chain := .response 200 (some (.obj [("anchors", .arr [anchor])]))
  active := .unreachable

/-- Two relays with one genesis, which the second serves with another device signature; no check
reads that of a genesis. -/
def toyRelays : List RelayReplies :=
  [toyReplies "https://a.example/" toyExplicitGenesis,
    toyReplies "https://b.example" (toyExplicitGenesis.merge [("device_sig", .null)])]

theorem toyRelays_resolved :
    ((resolve .toy id toyDid toyRelays ∅).1.map fun r => r.map (·.anchor.deviceSig.isSome))
        = some (some true) ∧
      ((resolve .toy id toyDid toyRelays.reverse ∅).1.map fun r =>
        r.map (·.anchor.deviceSig.isSome)) = some (some false) := by
  decide +kernel

/-- A chain is returned in both orders of the relays, with the same identifiers. -/
theorem resolver_consistent_toy : ∃ r r' s',
    resolve .toy id toyDid toyRelays ∅ = (some (some r), s') ∧
      resolve .toy id toyDid toyRelays.reverse ∅ = (some (some r'), s') ∧
      r'.cids .toy = r.cids .toy := by
  have hsome := toyRelays_resolved.1
  generalize hres : resolve .toy id toyDid toyRelays ∅ = res at hsome
  obtain ⟨result, s'⟩ := res
  obtain ⟨r?, rfl, hr⟩ := Option.map_eq_some_iff.1 hsome
  obtain ⟨r, rfl, -⟩ := Option.map_eq_some_iff.1 hr
  obtain ⟨r', hr', hcids⟩ := (resolver_consistent .toy id).order toyDid toyRelays
    toyRelays.reverse ∅ r s' toyRelays.reverse_perm.symm hres
  exact ⟨r, r', s', rfl, hr', hcids⟩

/-- **The order of the relays decides which signatures are returned.** -/
theorem resolve_order : ¬ ∀ (P : Platform) (toUtc : ℤ → ℤ) (did : String)
    (relays relays' : List RelayReplies) (s : Checkpoints), relays.Perm relays' →
      (resolve P toUtc did relays s).1 = (resolve P toUtc did relays' s).1 := by
  intro h
  have heq := h .toy id toyDid toyRelays toyRelays.reverse ∅ toyRelays.reverse_perm.symm
  obtain ⟨hfirst, hsecond⟩ := toyRelays_resolved
  rw [heq, hsecond] at hfirst
  cases hfirst

end Client

end Ansible
