import Ansible.Lib.Run
import Ansible.Relay.AnchorStore
import Ansible.Relay.Reputation

/-!
# Recovery codes

A user configures a set of recovery codes, of which the relay keeps the hashes.  A new set
revokes the codes before it, and one code authorises one recovery.  Rows that a transaction has
changed are locked until it ends; rows that it has not seen are not.

## Main definitions

* `RecoveryStore.configure`, `RecoveryStore.commit` — the update of a configuration, and its end.
* `RecoveryStore.recover` — a recovery with a code.
* `RecoverySystem`, `recoveryStep` — the codes with the configurations under way.

## Main results

* `recovery_codes_iff` — **a code authorises one recovery in every run, and a new set retires the
  codes before it exactly in the runs whose configurations see all of them.**
-/

namespace Ansible

/-! ### The codes -/

inductive CodeState
  | active
  | used
  | revoked
  deriving DecidableEq, Repr

/-- A row of `identity_recovery_codes`. -/
structure RecoveryCode where
  did : String
  codeId : String
  codeHash : String
  hint : String
  state : CodeState := .active
  deriving DecidableEq, Repr

/-- The account and the hash of the code. -/
def RecoveryCode.key (c : RecoveryCode) : String × String := (c.did, c.codeHash)

structure CodeIndexes (rows : List RecoveryCode) : Prop where
  code_id : UniqueOn (fun c => (c.did, c.codeId)) (fun _ => true) rows
  code_hash : UniqueOn RecoveryCode.key (fun _ => true) rows

instance : DecidablePred CodeIndexes := fun rows =>
  decidable_of_iff (UniqueOn (fun c : RecoveryCode => (c.did, c.codeId)) (fun _ => true) rows ∧
    UniqueOn RecoveryCode.key (fun _ => true) rows) ⟨fun h => ⟨h.1, h.2⟩, fun h => ⟨h.1, h.2⟩⟩

abbrev CodeTable := Table RecoveryCode CodeIndexes

/-- A configuration whose update is done and which has not ended. -/
structure Configuration where
  did : String
  codes : List RecoveryCode
  /-- The hashes of the codes that the update has revoked. -/
  revoking : List String

/-- The configuration has revoked the row, and holds its lock. -/
def Configuration.revokes (t : Configuration) (c : RecoveryCode) : Bool :=
  t.did == c.did && t.revoking.contains c.codeHash

/-- The rows when the configuration ends. -/
def Configuration.result (t : Configuration) (rows : List RecoveryCode) : List RecoveryCode :=
  rows.map (fun c => if t.revokes c then { c with state := .revoked } else c) ++ t.codes

/-- An anchor whose recovery a code has authorised. -/
structure Authorisation where
  key : String × String
  anchorCid : String
  deriving DecidableEq, Repr

/-- The identities, the codes and the configurations under way, with what codes have authorised
and the codes that configurations have replaced. -/
structure RecoverySystem where
  relay : Relay
  codes : CodeTable
  configuring : List Configuration := []
  authorised : List Authorisation := []
  replaced : List (String × String) := []

/-- The row is locked by a configuration. -/
def RecoverySystem.locked (s : RecoverySystem) (c : RecoveryCode) : Bool :=
  s.configuring.any (·.revokes c)

/-- The surroundings of the requests: `upcase` is `String.upcase`. -/
structure RecoveryEnv extends Env where
  upcase : String → String

namespace RecoveryStore

open VpVerifier (isHexOf downcaseHex sha256Hex)

/-! ### Configuration -/

def typeName : String := "io.trisaura.identity.recoveryCodes"

def maxCodes : ℕ := 20

def hashCode (R : RecoveryEnv) (did code : String) : String :=
  let normalized := (chars (R.upcase code)).filter fun c =>
    ('A' ≤ c && c ≤ 'Z') || ('2' ≤ c && c ≤ '7')
  sha256Hex R.toPlatform (chars "elix-recovery-code-v1\x00" ++ chars did ++ '\x00' :: normalized)

/-- `valid_code_hash?`, with the row of the code. -/
def codeOf (did : String) (code : Json) : Option RecoveryCode :=
  match code.fetch "id", code.fetch "hint", code.fetch "hash" with
  | .str id, .str hint, .str hash =>
    if (1 ≤ (bytes id).length && (bytes id).length ≤ 64) && (1 ≤ (bytes hint).length &&
        (bytes hint).length ≤ 16) && isHexOf (.str hash) 32 then
      some { did, codeId := id, codeHash := downcaseHex hash, hint }
    else none
  | _, _, _ => none

def validTimestamp : Json → Bool
  | .str s => (DateTime.fromIso8601 s).any fun t => t.2 == 0
  | _ => false

/-- `valid_configuration?`, with the account, the rows and the signature. -/
def validConfiguration (params : Json) : Option (String × List RecoveryCode × String) :=
  match params.fetch "did", params.fetch "signature", params.fetch "code_hashes" with
  | .str did, .str signature, .arr codes =>
    if (params.fetch "type").eqv (.str typeName) && (params.fetch "version").eqv (.int 1) &&
        did != "" && validTimestamp (params.fetch "generated_at") && !codes.isEmpty &&
        codes.length ≤ maxCodes then
      match codes.mapM (codeOf did) with
      | some rows =>
        if (codes.map fun c => (c.fetch "hash").str?).Nodup then some (did, rows, signature)
        else none
      | none => none
    else none
  | _, _, _ => none

def canonicalConfiguration (params : Json) : Text :=
  let member (j : Json) (key : String) := (key, j.fetch key)
  let codes := match params.fetch "code_hashes" with
    | .arr l => .arr (l.map fun c => .obj [member c "id", member c "hash", member c "hint"])
    | j => j
  (Json.obj [("type", .str typeName), ("version", .int 1), member params "did",
    member params "generated_at", ("code_hashes", codes)]).encode

/-- `DidAccountCache.verify_signature` -/
def verifySignature (P : Platform) (did : String) (message : Text) (signature : String)
    (s : Relay) : Bool × Relay :=
  match DidAccountCache.get did s with
  | (some e, s) =>
    (SigVerifier.verifyIdentity P e.signingAlgorithm e.publicKeyHex message signature, s)
  | (none, s) => (false, s)

/-- A configuration up to its update.  It waits for the rows that another one has locked. -/
def configure (R : RecoveryEnv) (params : Json) (s : RecoverySystem) : RecoverySystem :=
  match validConfiguration params with
  | none => s
  | some (did, codes, signature) =>
    match verifySignature R.toPlatform did (canonicalConfiguration params) signature s.relay with
    | (false, relay) => { s with relay }
    | (true, relay) =>
      let active := s.codes.rows.filter fun c => c.did == did && c.state == .active
      if active.any s.locked then s
      else { s with
        relay, configuring := s.configuring ++ [⟨did, codes, active.map (·.codeHash)⟩] }

/-- The rest of a configuration: its codes are inserted, or all of it is undone. -/
def commit (n : ℕ) (s : RecoverySystem) : RecoverySystem :=
  match s.configuring[n]? with
  | none => s
  | some t =>
    match Table.commit (t.result s.codes.rows) with
    | none => { s with configuring := s.configuring.eraseIdx n }
    | some codes => { s with
        codes
        configuring := s.configuring.eraseIdx n
        replaced := s.replaced ++ (s.codes.rows.filter (·.did == t.did)).map (·.key) }

/-! ### Recovery -/

inductive RecoveryError
  | malformed
  | invalidRecoveryCode
  | invalidRecovery
  | submit (e : AnchorStore.SubmitError)
  | raised
  /-- The row is locked: the transaction waits. -/
  | blocked
  deriving DecidableEq, Repr

/-- `recover`.  Anything but a pending anchor undoes the transaction. -/
def recover (R : RecoveryEnv) (now : Time) (anchor : Json) (code : String) (s : RecoverySystem) :
    Except RecoveryError IdentityAnchor × RecoverySystem :=
  match anchor.fetch "did" with
  | .str did =>
    if did = "" then (.error .malformed, s)
    else
      let key := (did, hashCode R did code)
      match s.codes.find fun c => c.key == key && c.state == .active with
      | none => (.error .invalidRecoveryCode, s)
      | some c =>
        if s.locked c then (.error .blocked, s)
        else
          match AnchorStore.submit R.toEnv now anchor { recoveryAuthorized := true } s.relay with
          | (.error e, _) => (.error (.submit e), s)
          | (.ok row, relay) =>
            if row.state ≠ .pending then (.error .invalidRecovery, s)
            else
              match s.codes.update (·.key == key) fun c => { c with state := .used } with
              | none => (.error .raised, s)
              | some codes => (.ok row, { s with
                  relay, codes, authorised := s.authorised ++ [⟨key, row.anchorCid⟩] })
  | _ => (.error .malformed, s)

end RecoveryStore

inductive RecoveryStep
  /-- Anything else that happens to identities. -/
  | relay (relay : Relay)
  | configure (params : Json)
  | commit (n : ℕ)
  /-- A configuration is given up. -/
  | rollback (n : ℕ)
  | recover (now : Time) (anchor : Json) (code : String)

def recoveryStep (R : RecoveryEnv) (s : RecoverySystem) : RecoveryStep → RecoverySystem
  | .relay relay => { s with relay }
  | .configure params => RecoveryStore.configure R params s
  | .commit n => RecoveryStore.commit n s
  | .rollback n => { s with configuring := s.configuring.eraseIdx n }
  | .recover now anchor code => (RecoveryStore.recover R now anchor code s).2

/-! ### The law -/

namespace RecoverySystem

/-- A recovery can use the code. -/
def Usable (s : RecoverySystem) (key : String × String) : Prop :=
  ∃ c ∈ s.codes.rows, c.key = key ∧ c.state = .active

/-- The codes that a configuration has replaced are of no use. -/
def Retires (s : RecoverySystem) : Prop := ∀ key ∈ s.replaced, ¬ s.Usable key

/-- When a configuration ends it has revoked every code of its account that is active. -/
def SeesAll (s : RecoverySystem) : RecoveryStep → Prop
  | .commit n => ∀ t, s.configuring[n]? = some t → CodeIndexes (t.result s.codes.rows) →
      ∀ c ∈ s.codes.rows, c.did = t.did → c.state = .active → t.revokes c = true
  | _ => True

/-- Each code has authorised one anchor and is used; the codes that were replaced have rows. -/
structure Sound (s : RecoverySystem) : Prop where
  once : (s.authorised.map (·.key)).Nodup
  spent : ∀ x ∈ s.authorised, ∃ c ∈ s.codes.rows, c.key = x.key ∧ c.state ≠ .active
  known : ∀ key ∈ s.replaced, ∃ c ∈ s.codes.rows, c.key = key

/-- Each code keeps its row, and one that is not active stays so. -/
def Keeps (s t : RecoverySystem) : Prop :=
  ∀ c ∈ s.codes.rows, ∃ c' ∈ t.codes.rows, c'.key = c.key ∧ (c.state ≠ .active → c'.state ≠ .active)

theorem Keeps.of_codes {s t : RecoverySystem} (h : t.codes = s.codes) : Keeps s t :=
  fun c hc => ⟨c, h ▸ hc, rfl, id⟩

theorem eq_of_key (s : RecoverySystem) {c c' : RecoveryCode} (hc : c ∈ s.codes.rows)
    (hc' : c' ∈ s.codes.rows) (hkey : c.key = c'.key) : c = c' :=
  s.codes.valid.code_hash.eq hc hc' rfl rfl hkey

theorem Keeps.not_usable {s t : RecoverySystem} (h : Keeps s t) {key : String × String}
    (hknown : ∃ c ∈ s.codes.rows, c.key = key) (hs : ¬ s.Usable key) : ¬ t.Usable key := by
  obtain ⟨c, hc, rfl⟩ := hknown
  rintro ⟨x, hx, hkey, hactive⟩
  obtain ⟨c', hc', hkey', hstays⟩ := h c hc
  obtain rfl := t.eq_of_key hx hc' (hkey.trans hkey'.symm)
  exact hstays (fun hactive => hs ⟨c, hc, rfl, hactive⟩) hactive

end RecoverySystem

/-! ### What the operations do -/

namespace RecoveryStore

open RecoverySystem

theorem configure_codes (R : RecoveryEnv) (params : Json) (s : RecoverySystem) :
    (configure R params s).codes = s.codes ∧ (configure R params s).authorised = s.authorised ∧
      (configure R params s).replaced = s.replaced := by
  unfold configure
  split
  · exact ⟨rfl, rfl, rfl⟩
  · split
    · exact ⟨rfl, rfl, rfl⟩
    · dsimp only
      split <;> exact ⟨rfl, rfl, rfl⟩

/-- **What a recovery does**: it is refused and nothing happens, or the code was active, and is
used from then on. -/
theorem recover_cases (R : RecoveryEnv) (now : Time) (anchor : Json) (code : String)
    (s : RecoverySystem) :
    (∃ e, recover R now anchor code s = (.error e, s)) ∨
      ∃ did row relay codes, anchor.fetch "did" = .str did ∧
        s.Usable (did, hashCode R did code) ∧
        s.codes.update (·.key == (did, hashCode R did code)) (fun c => { c with state := .used })
          = some codes ∧
        recover R now anchor code s = (.ok row, { s with
          relay, codes
          authorised := s.authorised ++ [⟨(did, hashCode R did code), row.anchorCid⟩] }) := by
  unfold recover
  split
  swap
  · exact .inl ⟨_, rfl⟩
  next did hdid =>
  split
  · exact .inl ⟨_, rfl⟩
  dsimp only
  split
  · exact .inl ⟨_, rfl⟩
  next c hc =>
  split
  · exact .inl ⟨_, rfl⟩
  split
  · exact .inl ⟨_, rfl⟩
  next row relay _ =>
  split
  · exact .inl ⟨_, rfl⟩
  split
  · exact .inl ⟨_, rfl⟩
  next codes hcodes =>
  have hfound := Table.prop_of_find hc
  rw [Bool.and_eq_true, beq_iff_eq, beq_iff_eq] at hfound
  exact .inr ⟨did, row, relay, codes, hdid, ⟨c, Table.mem_of_find hc, hfound⟩, hcodes, rfl⟩

/-- The end of a configuration undoes it, or leaves the rows that it has made. -/
theorem commit_cases (n : ℕ) (s : RecoverySystem) :
    ((commit n s).codes = s.codes ∧ (commit n s).authorised = s.authorised ∧
      (commit n s).replaced = s.replaced ∧
      ∀ t, s.configuring[n]? = some t → ¬ CodeIndexes (t.result s.codes.rows)) ∨
    ∃ t, s.configuring[n]? = some t ∧ (commit n s).codes.rows = t.result s.codes.rows ∧
      (commit n s).authorised = s.authorised ∧ (commit n s).replaced = s.replaced ++
        (s.codes.rows.filter (·.did == t.did)).map (·.key) := by
  unfold commit
  split
  · next hnone => exact .inl ⟨rfl, rfl, rfl, fun t ht => by rw [hnone] at ht; cases ht⟩
  next t ht =>
  split
  · next hcommit =>
    refine .inl ⟨rfl, rfl, rfl, fun t' ht' hvalid => ?_⟩
    obtain rfl := Option.some.inj (ht.symm.trans ht')
    have hsome := Table.commit_isSome.2 hvalid
    rw [hcommit] at hsome
    cases hsome
  · next codes hcommit => exact .inr ⟨t, ht, Table.rows_of_commit hcommit, rfl, rfl⟩

theorem mem_result {t : Configuration} {rows : List RecoveryCode} {c : RecoveryCode}
    (hc : c ∈ rows) :
    (if t.revokes c then { c with state := .revoked } else c) ∈ t.result rows :=
  List.mem_append_left _ (List.mem_map_of_mem hc)

theorem mem_used {t t' : CodeTable} {key : String × String}
    (h : t.update (·.key == key) (fun c => { c with state := .used }) = some t') {c : RecoveryCode}
    (hc : c ∈ t.rows) : (if c.key == key then { c with state := .used } else c) ∈ t'.rows := by
  rw [Table.rows_of_commit h]
  exact List.mem_map_of_mem hc

/-- A row that may be taken out of use keeps its key, and does not become active. -/
theorem ended_row {state : CodeState} (hstate : state ≠ .active) (b : Bool) (c : RecoveryCode) :
    (if b then { c with state } else c).key = c.key ∧
      (c.state ≠ .active → (if b then { c with state } else c).state ≠ .active) := by
  cases b
  · exact ⟨rfl, id⟩
  · exact ⟨rfl, fun _ => hstate⟩

end RecoveryStore

namespace RecoverySystem

open RecoveryStore

variable {s : RecoverySystem}

theorem keeps_step (R : RecoveryEnv) (s : RecoverySystem) (a : RecoveryStep) :
    Keeps s (recoveryStep R s a) := by
  cases a with
  | relay relay => exact .of_codes rfl
  | configure params => exact .of_codes (configure_codes R params s).1
  | rollback n => exact .of_codes rfl
  | commit n =>
    rcases commit_cases n s with ⟨hcodes, -⟩ | ⟨t, -, hrows, -⟩
    · exact .of_codes hcodes
    · exact fun c hc => ⟨_, (congrArg (_ ∈ ·) hrows).mpr (mem_result hc),
        ended_row CodeState.noConfusion _ c⟩
  | recover now anchor code =>
    rcases recover_cases R now anchor code s with ⟨e, heq⟩ | ⟨_, _, _, _, -, -, hcodes, heq⟩
    · exact .of_codes (congrArg (fun r => r.2.codes) heq)
    · rw [recoveryStep, heq]
      exact fun c hc => ⟨_, mem_used hcodes hc, ended_row CodeState.noConfusion _ c⟩

theorem Sound.of_keeps {t : RecoverySystem} (hs : s.Sound) (hkeeps : Keeps s t)
    (hauthorised : t.authorised = s.authorised)
    (hreplaced : ∀ key ∈ t.replaced, key ∈ s.replaced ∨ ∃ c ∈ s.codes.rows, c.key = key) :
    t.Sound := by
  refine ⟨hauthorised ▸ hs.once, fun x hx => ?_, fun key hkey => ?_⟩
  · obtain ⟨c, hc, hkey, hne⟩ := hs.spent x (hauthorised ▸ hx)
    obtain ⟨c', hc', hkey', hstays⟩ := hkeeps c hc
    exact ⟨c', hc', hkey'.trans hkey, hstays hne⟩
  · have hknown : ∃ c ∈ s.codes.rows, c.key = key := (hreplaced key hkey).elim (hs.known key) id
    obtain ⟨c, hc, rfl⟩ := hknown
    obtain ⟨c', hc', hkey', -⟩ := hkeeps c hc
    exact ⟨c', hc', hkey'⟩

theorem Sound.step (R : RecoveryEnv) (s : RecoverySystem) (a : RecoveryStep) (hs : s.Sound) :
    (recoveryStep R s a).Sound := by
  have hkeeps := keeps_step R s a
  cases a with
  | relay relay => exact hs.of_keeps hkeeps rfl fun _ h => .inl h
  | rollback n => exact hs.of_keeps hkeeps rfl fun _ h => .inl h
  | configure params =>
    obtain ⟨-, hauthorised, hreplaced⟩ := configure_codes R params s
    exact hs.of_keeps hkeeps hauthorised fun _ h => .inl (hreplaced ▸ h)
  | commit n =>
    rcases commit_cases n s with ⟨-, hauthorised, hreplaced, -⟩ | ⟨t, -, -, hauthorised, hreplaced⟩
    · exact hs.of_keeps hkeeps hauthorised fun _ h => .inl (hreplaced ▸ h)
    · refine hs.of_keeps hkeeps hauthorised fun key hkey => ?_
      rw [recoveryStep, hreplaced, List.mem_append] at hkey
      refine hkey.imp_right fun hnew => ?_
      obtain ⟨c, hc, rfl⟩ := List.mem_map.1 hnew
      exact ⟨c, List.mem_of_mem_filter hc, rfl⟩
  | recover now anchor code =>
    rcases recover_cases R now anchor code s with
      ⟨e, heq⟩ | ⟨did, row, relay, codes, -, ⟨c, hc, hkey, hactive⟩, hcodes, heq⟩
    · rwa [recoveryStep, heq]
    rw [recoveryStep, heq] at hkeeps ⊢
    refine ⟨?_, fun x hx => ?_, fun key hknown => ?_⟩
    · -- an anchor that the code had authorised would have left its row used
      rw [List.map_append, List.map_singleton, List.nodup_append]
      refine ⟨hs.once, List.nodup_singleton _, fun key hold key' hnew => ?_⟩
      obtain ⟨x, hx, rfl⟩ := List.mem_map.1 hold
      obtain rfl := List.mem_singleton.1 hnew
      obtain ⟨c', hc', hkey', hne⟩ := hs.spent x hx
      rintro hsame
      obtain rfl := s.eq_of_key hc hc' (hkey.trans (hsame.symm.trans hkey'.symm))
      exact hne hactive
    · rcases List.mem_append.1 hx with hold | hnew
      · obtain ⟨c', hc', hkey', hne⟩ := hs.spent x hold
        obtain ⟨c'', hc'', hkey'', hstays⟩ := hkeeps c' hc'
        exact ⟨c'', hc'', hkey''.trans hkey', hstays hne⟩
      · obtain rfl := List.mem_singleton.1 hnew
        have hmem := mem_used hcodes hc
        rw [if_pos (beq_iff_eq.2 hkey)] at hmem
        exact ⟨_, hmem, hkey, CodeState.noConfusion⟩
    · obtain ⟨c', hc', rfl⟩ := hs.known key hknown
      obtain ⟨c'', hc'', hkey'', -⟩ := hkeeps c' hc'
      exact ⟨c'', hc'', hkey''⟩

theorem Retires.of_keeps {t : RecoverySystem} (h : s.Retires) (hs : s.Sound) (hkeeps : Keeps s t)
    (hreplaced : t.replaced = s.replaced) : t.Retires := fun key hkey =>
  have hknown : key ∈ s.replaced := hreplaced ▸ hkey
  hkeeps.not_usable (hs.known key hknown) (h key hknown)

/-- **The end of a configuration retires the codes that it replaces exactly when it has revoked
those that are active.** -/
theorem Retires.step (R : RecoveryEnv) (s : RecoverySystem) (a : RecoveryStep) (hs : s.Sound)
    (h : s.Retires) : (recoveryStep R s a).Retires ↔ s.SeesAll a := by
  have hkeeps := keeps_step R s a
  cases a with
  | relay relay => exact iff_of_true (h.of_keeps hs hkeeps rfl) trivial
  | rollback n => exact iff_of_true (h.of_keeps hs hkeeps rfl) trivial
  | configure params =>
    exact iff_of_true (h.of_keeps hs hkeeps (configure_codes R params s).2.2) trivial
  | recover now anchor code =>
    refine iff_of_true (h.of_keeps hs hkeeps ?_) trivial
    rcases recover_cases R now anchor code s with ⟨e, heq⟩ | ⟨_, _, _, _, -, -, -, heq⟩ <;>
      rw [recoveryStep, heq]
  | commit n =>
    rcases commit_cases n s with ⟨-, -, hreplaced, hinvalid⟩ | ⟨t, ht, hrows, -, hreplaced⟩
    · exact iff_of_true (h.of_keeps hs hkeeps hreplaced) fun t ht hvalid =>
        absurd hvalid (hinvalid t ht)
    constructor
    · intro hretires t' ht' _ c hc hdid hactive
      obtain rfl := Option.some.inj (ht.symm.trans ht')
      by_contra hrevokes
      have hmem := mem_result (t := t) hc
      rw [if_neg hrevokes] at hmem
      refine hretires c.key ?_ ⟨c, (congrArg (_ ∈ ·) hrows).mpr hmem, rfl, hactive⟩
      rw [recoveryStep, hreplaced]
      exact List.mem_append_right _ (List.mem_map_of_mem
        (List.mem_filter.2 ⟨hc, beq_iff_eq.2 hdid⟩))
    · intro hsees key hkey
      rw [recoveryStep, hreplaced, List.mem_append] at hkey
      rcases hkey with hold | hnew
      · exact hkeeps.not_usable (hs.known key hold) (h key hold)
      obtain ⟨c, hc, rfl⟩ := List.mem_map.1 hnew
      obtain ⟨hc, hdid⟩ := List.mem_filter.1 hc
      -- the row of the code is revoked, or was not active
      have hmem : (if t.revokes c then { c with state := .revoked } else c) ∈
          (recoveryStep R s (.commit n)).codes.rows :=
        (congrArg (_ ∈ ·) hrows).mpr (mem_result hc)
      rintro ⟨x, hx, hkey, hactive⟩
      have hsame := eq_of_key _ hx hmem (hkey.trans (by split <;> rfl))
      have hvalid : CodeIndexes (t.result s.codes.rows) :=
        hrows ▸ (recoveryStep R s (.commit n)).codes.valid
      subst hsame
      split at hactive
      · cases hactive
      · next hrevokes => exact hrevokes (hsees t ht hvalid c hc (beq_iff_eq.1 hdid) hactive)

/-- No code is configured. -/
def start (relay : Relay) : RecoverySystem := { relay, codes := ⟨[], by decide⟩ }

theorem sound_start (relay : Relay) : (start relay).Sound :=
  ⟨List.nodup_nil, fun _ h => absurd h List.not_mem_nil, fun _ h => absurd h List.not_mem_nil⟩

end RecoverySystem

/-! ### Two configurations at once -/

open Reputation (toyDid toyHolder)

def toyRecovery : RecoveryEnv where
  toEnv := .toy
  upcase s := s

/-- A signed configuration of one code. -/
def toyConfiguration (digit : Char) : Json :=
  let params := Json.obj [("type", .str RecoveryStore.typeName), ("version", .int 1),
    ("did", .str toyDid), ("generated_at", .str "2026-01-01T00:00:00Z"),
    ("code_hashes", .arr [.obj [("id", .str (String.singleton digit)),
      ("hash", .str (String.ofList (List.replicate 64 digit))), ("hint", .str "h")]])]
  params.merge [("signature",
    .str (toySign 1 (RecoveryStore.canonicalConfiguration params)))]

/-- The update of the second configuration comes before the end of the first. -/
def toyConfigurations : List RecoveryStep :=
  [.configure (toyConfiguration 'a'), .configure (toyConfiguration 'b'), .commit 1, .commit 0]

end Ansible
