import Ansible.Lib.Run
import Ansible.Relay.WebSessionStore
import Mathlib.Data.List.Nodup
import Mathlib.Data.List.Perm.Subperm

/-!
# The life of a web session challenge

A challenge is pending until it is approved, rejected or expired, and an approval mints its one
session.  A rejection does not look at the status.

## Main definitions

* `SessionSystem`, `SessionStep` — the process with its clock and the sessions it has minted.
* `SessionLaw` — what holds of a state: the limits, and which challenges have minted.
* `Orderly` — rejections are of challenges that are pending or rejected, and approvals arrive
  before the expiry that they ask for.

## Main results

* `web_session_law` — **in every orderly run the law holds and statuses other than pending are
  absorbing.**
-/

namespace Ansible

open WebSessionStore

/-! ### The system -/

/-- A session that was minted for a challenge. -/
structure Minted where
  challengeId : ℕ
  sessionToken : ℕ
  subjectDid : String
  approvingDeviceId : String
  time : Time
  deriving DecidableEq

/-- The process at an instant, and the sessions that it has minted so far. -/
structure SessionSystem where
  clock : Time
  store : WebSessionStore
  minted : List Minted

def SessionSystem.empty (clock : Time) : SessionSystem := ⟨clock, .empty, []⟩

inductive SessionOp
  | create (attrs : ChallengeAttrs)
  | approve (id : ℕ) (attrs : ApprovalAttrs)
  | reject (id : ℕ)
  | exchange (id : ℕ)
  | revoke (token : ℕ)
  | sweep
  | idle

/-- A request or a sweep, some time after the one before. -/
structure SessionStep where
  wait : ℕ
  op : SessionOp

/-- The session that an approval has minted. -/
def mintedBy (id : ℕ) : Except WebSessionError WebSession → List Minted
  | .ok x => [⟨id, x.sessionToken, x.subjectDid, x.approvingDeviceId, x.createdAt⟩]
  | .error _ => []

def SessionOp.run (now : Time) (s : WebSessionStore) : SessionOp → List Minted × WebSessionStore
  | .create attrs => ([], (issueChallenge now attrs s).2)
  | .approve id attrs =>
    let r := approveChallenge now id attrs s
    (mintedBy id r.1, r.2)
  | .reject id => ([], (rejectChallenge id s).2)
  | .exchange id => ([], (WebSessionStore.exchange now id s).2)
  | .revoke token => ([], (revokeSession now token s).2)
  | .sweep => ([], WebSessionStore.sweep now s)
  | .idle => ([], s)

def sessionStep (s : SessionSystem) (a : SessionStep) : SessionSystem :=
  let now := s.clock + a.wait
  let r := a.op.run now s.store
  ⟨now, r.2, s.minted ++ r.1⟩

/-! ### The law -/

/-- The approvals of a device of a DID in the hour before. -/
def recentlyMinted (s : SessionSystem) (did deviceId : String) : List Minted :=
  s.minted.filter fun m => m.subjectDid == did && m.approvingDeviceId == deviceId &&
    decide (s.clock - approvalWindow < m.time)

structure SessionLaw (s : SessionSystem) : Prop where
  oneSession : (s.minted.map (·.challengeId)).Nodup
  rejected : ∀ c ∈ s.store.challenges, c.status = .rejected → ∀ m ∈ s.minted,
    m.challengeId ≠ c.challengeId
  active : ∀ did, (s.store.activeSessions s.clock did).length ≤ maxActiveSessionsPerDid
  approvals : ∀ did deviceId, (recentlyMinted s did deviceId).length ≤ maxApprovalsPerDevicePerHour

/-- A challenge that is no longer pending keeps its status as long as it is kept. -/
def Absorbs (s t : SessionSystem) : Prop :=
  ∀ c ∈ s.store.challenges, c.status ≠ .pending → ∀ c' ∈ t.store.challenges,
    c'.challengeId = c.challengeId → c'.status = c.status

/-- A rejection is of a challenge that is pending or rejected, and an approval does not arrive
after the expiry that it asks for. -/
def Orderly (s : SessionSystem) (a : SessionStep) : Prop :=
  match a.op with
  | .reject id => ∀ c ∈ s.store.challenge id, c.status = .pending ∨ c.status = .rejected
  | .approve _ attrs => s.clock + a.wait ≤ attrs.expiresAt
  | _ => True

instance (s : SessionSystem) : ∀ a, Decidable (Orderly s a)
  | ⟨_, .reject id⟩ => inferInstanceAs (Decidable (∀ c ∈ s.store.challenge id,
      c.status = .pending ∨ c.status = .rejected))
  | ⟨wait, .approve _ attrs⟩ => inferInstanceAs (Decidable (s.clock + wait ≤ attrs.expiresAt))
  | ⟨_, .create _⟩ | ⟨_, .exchange _⟩ | ⟨_, .revoke _⟩ | ⟨_, .sweep⟩ | ⟨_, .idle⟩ =>
    instDecidableTrue

/-! ### Keys -/

theorem nodup_keys_append {α : Type} {f : α → ℕ} {l : List α} {a : α} {n : ℕ}
    (hl : (l.map f).Nodup) (hlt : ∀ b ∈ l, f b < n) (ha : f a = n) :
    ((l ++ [a]).map f).Nodup := by
  rw [List.map_append, List.nodup_append]
  refine ⟨hl, List.nodup_singleton _, fun i hi j hj => ?_⟩
  obtain ⟨b, hb, rfl⟩ := List.mem_map.1 hi
  obtain rfl : j = f a := List.mem_singleton.1 hj
  exact Nat.ne_of_lt (ha ▸ hlt b hb)

/-- Lists without repetitions of keys, of which the one has only keys of the other. -/
theorem length_le_of_keys {α β : Type} {f : α → ℕ} {g : β → ℕ} {l : List α} {m : List β}
    (hl : (l.map f).Nodup) (h : ∀ a ∈ l, ∃ b ∈ m, g b = f a) : l.length ≤ m.length := by
  have hsubset : l.map f ⊆ m.map g := by
    intro k hk
    obtain ⟨a, ha, rfl⟩ := List.mem_map.1 hk
    obtain ⟨b, hb, hkey⟩ := h a ha
    exact List.mem_map.2 ⟨b, hb, hkey⟩
  have hle := (List.subperm_of_subset hl hsubset).length_le
  rwa [List.length_map, List.length_map] at hle

/-! ### Challenges -/

/-- What is known of the challenges: tokens are drawn once, and the status of a challenge that
has minted a session. -/
structure ChallengesSound (s : SessionSystem) : Prop where
  nodup : (s.store.challenges.map (·.challengeId)).Nodup
  drawn : ∀ c ∈ s.store.challenges, c.challengeId < s.store.drawn
  minted : ∀ m ∈ s.minted, m.challengeId < s.store.drawn ∧
    ∀ c ∈ s.store.challenges, c.challengeId = m.challengeId → c.status = .approved
  oneSession : (s.minted.map (·.challengeId)).Nodup

variable {s t : SessionSystem} {id : ℕ} {c : WebChallenge} {x : WebSession} {now : Time}

theorem challenge_eq_some {s : WebSessionStore} (h : s.challenge id = some c) :
    c ∈ s.challenges ∧ c.challengeId = id :=
  ⟨List.mem_of_find?_eq_some h, by
    have hid := List.find?_some h
    exact beq_iff_eq.1 hid⟩

theorem ChallengesSound.eq (hs : ChallengesSound s) {c' : WebChallenge}
    (hc : c ∈ s.store.challenges) (hc' : c' ∈ s.store.challenges)
    (hid : c.challengeId = c'.challengeId) : c = c' :=
  List.inj_on_of_nodup_map hs.nodup hc hc' hid

theorem mem_putChallenge {s : WebSessionStore} {x : WebChallenge}
    (hx : x ∈ (s.putChallenge c).challenges) : x = c ∨ x ∈ s.challenges := by
  obtain ⟨y, hy, rfl⟩ := List.mem_map.1 hx
  split
  · exact .inl rfl
  · exact .inr hy

theorem putChallenge_ids (s : WebSessionStore) (c : WebChallenge) :
    (s.putChallenge c).challenges.map (·.challengeId) = s.challenges.map (·.challengeId) := by
  rw [putChallenge, List.map_map]
  refine List.map_congr_left fun x _ => ?_
  rw [Function.comp_apply]
  split
  · next h => exact h.symm
  · rfl

/-- What steps do to the challenges: identifiers do not return. -/
structure Evolves (s t : SessionSystem) : Prop where
  drawn : s.store.drawn ≤ t.store.drawn
  ids : ∀ c' ∈ t.store.challenges, c'.challengeId < s.store.drawn →
    ∃ c ∈ s.store.challenges, c.challengeId = c'.challengeId
  absorbs : Absorbs s t

theorem Evolves.refl (hs : ChallengesSound s) : Evolves s s :=
  ⟨le_rfl, fun c hc _ => ⟨c, hc, rfl⟩, fun _ hc _ _ hc' hid => by rw [hs.eq hc' hc hid]⟩

theorem Evolves.trans {u : SessionSystem} (hs : ChallengesSound s) (hst : Evolves s t)
    (htu : Evolves t u) : Evolves s u := by
  refine ⟨hst.drawn.trans htu.drawn, ?_, ?_⟩
  · intro c hc hlt
    obtain ⟨c', hc', hid⟩ := htu.ids c hc (lt_of_lt_of_le hlt hst.drawn)
    obtain ⟨c₀, hc₀, hid₀⟩ := hst.ids c' hc' (hid ▸ hlt)
    exact ⟨c₀, hc₀, hid₀.trans hid⟩
  · intro c hc hne c'' hc'' hid
    -- a challenge that is gone in between would have to come back
    have hlt : c''.challengeId < t.store.drawn := by
      rw [hid]
      exact lt_of_lt_of_le (hs.drawn c hc) hst.drawn
    obtain ⟨c', hc', hid'⟩ := htu.ids c'' hc'' hlt
    have hsame := hst.absorbs c hc hne c' hc' (hid'.trans hid)
    rw [← hsame]
    exact htu.absorbs c' hc' (hsame ▸ hne) c'' hc'' hid'.symm

theorem ChallengesSound.sublist (hs : ChallengesSound s)
    (hsub : t.store.challenges.Sublist s.store.challenges) (hdrawn : s.store.drawn ≤ t.store.drawn)
    (hminted : t.minted = s.minted) : ChallengesSound t ∧ Evolves s t := by
  refine ⟨⟨hs.nodup.sublist (hsub.map _), ?_, ?_, hminted ▸ hs.oneSession⟩, hdrawn,
    fun c hc _ => ⟨c, hsub.subset hc, rfl⟩, ?_⟩
  · intro c hc
    exact lt_of_lt_of_le (hs.drawn c (hsub.subset hc)) hdrawn
  · intro m hm
    rw [hminted] at hm
    obtain ⟨hlt, hstatus⟩ := hs.minted m hm
    exact ⟨lt_of_lt_of_le hlt hdrawn, fun c hc => hstatus c (hsub.subset hc)⟩
  · intro c hc _ c' hc' hid
    rw [hs.eq (hsub.subset hc') hc hid]

/-- A new challenge. -/
theorem ChallengesSound.append (hs : ChallengesSound s) (hid : c.challengeId = s.store.drawn)
    (hchallenges : t.store.challenges = s.store.challenges ++ [c])
    (hdrawn : t.store.drawn = s.store.drawn + 1) (hminted : t.minted = s.minted) :
    ChallengesSound t ∧ Evolves s t := by
  have hold : ∀ c' ∈ t.store.challenges, c' = c ∨ c' ∈ s.store.challenges := by
    intro c' hc'
    rw [hchallenges, List.mem_append, List.mem_singleton] at hc'
    exact hc'.symm
  refine ⟨⟨?_, ?_, ?_, hminted ▸ hs.oneSession⟩, by omega, ?_, ?_⟩
  · rw [hchallenges]
    exact nodup_keys_append hs.nodup hs.drawn hid
  · intro c' hc'
    rw [hdrawn]
    rcases hold c' hc' with rfl | hc'
    · exact hid ▸ Nat.lt_succ_self _
    · exact Nat.lt_succ_of_lt (hs.drawn c' hc')
  · intro m hm
    rw [hminted] at hm
    obtain ⟨hlt, hstatus⟩ := hs.minted m hm
    refine ⟨by omega, fun c' hc' hmid => ?_⟩
    rcases hold c' hc' with rfl | hc'
    · omega
    · exact hstatus c' hc' hmid
  · intro c' hc' hlt
    rcases hold c' hc' with rfl | hc'
    · omega
    · exact ⟨c', hc', rfl⟩
  · intro c₀ hc₀ _ c' hc' heq
    have hlt := hs.drawn c₀ hc₀
    rcases hold c' hc' with rfl | hc'
    · omega
    · rw [hs.eq hc' hc₀ heq]

/-- The status of a challenge changes, from pending; with the approval comes the one session. -/
theorem ChallengesSound.put {c' : WebChallenge} {new : List Minted} (hs : ChallengesSound s)
    (hc : c ∈ s.store.challenges) (hid : c'.challengeId = c.challengeId)
    (hstatus : c.status = .pending ∨ c'.status = c.status)
    (hnew : ∀ m ∈ new, m.challengeId = c.challengeId ∧ c.status = .pending ∧ c'.status = .approved)
    (hone : new.length ≤ 1)
    (hchallenges : t.store.challenges = (s.store.putChallenge c').challenges)
    (hdrawn : s.store.drawn ≤ t.store.drawn) (hminted : t.minted = s.minted ++ new) :
    ChallengesSound t ∧ Evolves s t := by
  have hids : t.store.challenges.map (·.challengeId) = s.store.challenges.map (·.challengeId) := by
    rw [hchallenges, putChallenge_ids]
  have hold : ∀ x ∈ t.store.challenges, x = c' ∨ x ∈ s.store.challenges := fun x hx =>
    mem_putChallenge (hchallenges ▸ hx)
  have hnodup : (t.store.challenges.map (·.challengeId)).Nodup := hids ▸ hs.nodup
  -- a challenge of the old list with the identifier is the old challenge
  have hput : ∀ x ∈ t.store.challenges, x.challengeId = c.challengeId → x = c' := by
    intro x hx hxid
    have hc't : c' ∈ t.store.challenges := by
      rw [hchallenges]
      exact List.mem_map.2 ⟨c, hc, if_pos hid.symm⟩
    exact List.inj_on_of_nodup_map hnodup hx hc't (hxid.trans hid.symm)
  have hfrom : ∀ x ∈ t.store.challenges,
      ∃ y ∈ s.store.challenges, y.challengeId = x.challengeId := by
    intro x hx
    have hxid : x.challengeId ∈ s.store.challenges.map (·.challengeId) :=
      hids ▸ List.mem_map_of_mem hx
    exact List.mem_map.1 hxid
  refine ⟨⟨hnodup, ?_, ?_, ?_⟩, hdrawn, fun x hx _ => hfrom x hx, ?_⟩
  · intro x hx
    obtain ⟨y, hy, hyid⟩ := hfrom x hx
    have hlt := hs.drawn y hy
    omega
  · intro m hm
    rw [hminted] at hm
    rcases List.mem_append.1 hm with hm | hm
    · obtain ⟨hlt, happroved⟩ := hs.minted m hm
      refine ⟨by omega, fun x hx hxid => ?_⟩
      rcases hold x hx with rfl | hx
      · have hcm := happroved c hc (hid.symm.trans hxid)
        rcases hstatus with hpending | hsame
        · rw [hcm] at hpending
          cases hpending
        · rw [hsame, hcm]
      · exact happroved x hx hxid
    · obtain ⟨hmid, -, happroved⟩ := hnew m hm
      have hlt := hs.drawn c hc
      refine ⟨by omega, fun x hx hxid => ?_⟩
      rw [hput x hx (hxid.trans hmid)]
      exact happroved
  · rw [hminted, List.map_append, List.nodup_append]
    refine ⟨hs.oneSession, ?_, fun i hi j hj => ?_⟩
    · match new, hone with
      | [], _ => exact List.nodup_nil
      | [m], _ => exact List.nodup_singleton _
    · obtain ⟨m, hm, rfl⟩ := List.mem_map.1 hi
      obtain ⟨m', hm', rfl⟩ := List.mem_map.1 hj
      obtain ⟨hmid, hpending, -⟩ := hnew m' hm'
      intro heq
      have happroved := (hs.minted m hm).2 c hc (hmid.symm.trans heq.symm)
      rw [hpending] at happroved
      cases happroved
  · intro c₀ hc₀ hne x hx hxid
    rcases hold x hx with rfl | hx
    · obtain rfl := hs.eq hc₀ hc (hxid.symm.trans hid)
      rcases hstatus with hpending | hsame
      · exact absurd hpending hne
      · exact hsame
    · rw [hs.eq hx hc₀ hxid]

/-! ### Sessions -/

/-- The two sessions are one, but for a revocation. -/
structure SameSession (x y : WebSession) : Prop where
  sessionToken : y.sessionToken = x.sessionToken
  subjectDid : y.subjectDid = x.subjectDid
  approvingDeviceId : y.approvingDeviceId = x.approvingDeviceId
  createdAt : y.createdAt = x.createdAt
  expiresAt : y.expiresAt = x.expiresAt

theorem SameSession.refl (x : WebSession) : SameSession x x := ⟨rfl, rfl, rfl, rfl, rfl⟩

/-- The session is the one that was minted. -/
structure MintedAs (m : Minted) (x : WebSession) : Prop where
  sessionToken : x.sessionToken = m.sessionToken
  subjectDid : x.subjectDid = m.subjectDid
  approvingDeviceId : x.approvingDeviceId = m.approvingDeviceId
  createdAt : x.createdAt = m.time

/-- What is known of the sessions: those of the last hour are kept. -/
structure SessionsSound (s : SessionSystem) : Prop where
  nodup : (s.store.sessions.map (·.sessionToken)).Nodup
  drawn : ∀ x ∈ s.store.sessions, x.sessionToken < s.store.drawn
  times : ∀ x ∈ s.store.sessions, x.createdAt ≤ x.expiresAt ∧
    ∀ r, x.revokedAt = some r → x.createdAt ≤ r
  past : ∀ x ∈ s.store.sessions, x.createdAt ≤ s.clock
  mintedNodup : (s.minted.map (·.sessionToken)).Nodup
  mintedDrawn : ∀ m ∈ s.minted, m.sessionToken < s.store.drawn
  kept : ∀ m ∈ s.minted, s.clock - approvalWindow < m.time →
    ∃ x ∈ s.store.sessions, MintedAs m x
  active : ∀ did, (s.store.activeSessions s.clock did).length ≤ maxActiveSessionsPerDid
  approvals : ∀ did deviceId, (recentlyMinted s did deviceId).length ≤ maxApprovalsPerDevicePerHour

/-- Time passes, and sessions are revoked or removed that are older than an hour. -/
theorem SessionsSound.shrink (hs : SessionsSound s) (hclock : s.clock ≤ t.clock)
    (hdrawn : s.store.drawn ≤ t.store.drawn) (hminted : t.minted = s.minted)
    (hnodup : (t.store.sessions.map (·.sessionToken)).Nodup)
    (hfrom : ∀ y ∈ t.store.sessions, ∃ x ∈ s.store.sessions, SameSession x y ∧
      (y.revokedAt = x.revokedAt ∨ y.revokedAt = some t.clock))
    (hkept : ∀ x ∈ s.store.sessions, t.clock - approvalWindow < x.createdAt →
      ∃ y ∈ t.store.sessions, SameSession x y) : SessionsSound t := by
  refine ⟨hnodup, ?_, ?_, ?_, hminted ▸ hs.mintedNodup, ?_, ?_, fun did => ?_,
    fun did deviceId => ?_⟩
  · intro y hy
    obtain ⟨x, hx, hsame, -⟩ := hfrom y hy
    rw [hsame.sessionToken]
    exact lt_of_lt_of_le (hs.drawn x hx) hdrawn
  · intro y hy
    obtain ⟨x, hx, hsame, hrevoked⟩ := hfrom y hy
    obtain ⟨hexpires, hrev⟩ := hs.times x hx
    rw [hsame.createdAt, hsame.expiresAt]
    refine ⟨hexpires, fun r hr => ?_⟩
    rcases hrevoked with hrevoked | hrevoked
    · exact hrev r (hrevoked ▸ hr)
    · rw [hrevoked] at hr
      cases hr
      exact Int.le_trans (hs.past x hx) hclock
  · intro y hy
    obtain ⟨x, hx, hsame, -⟩ := hfrom y hy
    rw [hsame.createdAt]
    exact Int.le_trans (hs.past x hx) hclock
  · intro m hm
    rw [hminted] at hm
    exact lt_of_lt_of_le (hs.mintedDrawn m hm) hdrawn
  · -- a session minted within the hour was not removed
    intro m hm hrecent
    rw [hminted] at hm
    have hle : s.clock - approvalWindow ≤ t.clock - approvalWindow := Int.sub_le_sub_right hclock _
    obtain ⟨x, hx, hmx⟩ := hs.kept m hm (Int.lt_of_le_of_lt hle hrecent)
    obtain ⟨y, hy, hsame⟩ := hkept x hx (by rw [hmx.createdAt]; exact hrecent)
    exact ⟨y, hy, hsame.sessionToken.trans hmx.sessionToken, hsame.subjectDid.trans hmx.subjectDid,
      hsame.approvingDeviceId.trans hmx.approvingDeviceId, hsame.createdAt.trans hmx.createdAt⟩
  · -- each active session was active before
    refine (length_le_of_keys (f := WebSession.sessionToken) (g := WebSession.sessionToken)
      (hnodup.sublist (List.filter_sublist.map _)) fun y hy => ?_).trans (hs.active did)
    obtain ⟨hmem, hy⟩ := List.mem_filter.1 hy
    obtain ⟨x, hx, hsame, hrevoked⟩ := hfrom y hmem
    refine ⟨x, List.mem_filter.2 ⟨hx, ?_⟩, hsame.sessionToken.symm⟩
    rw [Bool.and_eq_true, isActive, Bool.and_eq_true, Bool.not_eq_true', isExpired,
      decide_eq_false_iff_not, Option.isNone_iff_eq_none] at hy ⊢
    obtain ⟨hdid, hnone, hlive⟩ := hy
    rw [hsame.subjectDid] at hdid
    rw [hsame.expiresAt] at hlive
    refine ⟨hdid, ?_, fun h => hlive (Int.le_trans h hclock)⟩
    rcases hrevoked with hrevoked | hrevoked
    · rw [← hrevoked, hnone]
    · rw [hrevoked] at hnone
      cases hnone
  · refine le_trans (List.Sublist.length_le ?_) (hs.approvals did deviceId)
    unfold recentlyMinted
    rw [hminted]
    refine List.monotone_filter_right _ fun m hm => ?_
    rw [Bool.and_eq_true, decide_eq_true_eq] at hm ⊢
    exact ⟨hm.1, Int.lt_of_le_of_lt (Int.sub_le_sub_right hclock _) hm.2⟩

theorem SessionsSound.same (hs : SessionsSound s) (hclock : s.clock ≤ t.clock)
    (hdrawn : s.store.drawn ≤ t.store.drawn) (hminted : t.minted = s.minted)
    (hsessions : t.store.sessions = s.store.sessions) : SessionsSound t := by
  refine hs.shrink hclock hdrawn hminted (hsessions ▸ hs.nodup) ?_ ?_
  · intro y hy
    exact ⟨y, hsessions ▸ hy, .refl y, .inl rfl⟩
  · intro x hx _
    exact ⟨x, hsessions ▸ hx, .refl x⟩

/-- A session is minted while the limits leave room for it. -/
theorem SessionsSound.append {m : Minted} (hs : SessionsSound s) (hclock : t.clock = s.clock)
    (hsessions : t.store.sessions = s.store.sessions ++ [x])
    (hdrawn : t.store.drawn = s.store.drawn + 1) (hminted : t.minted = s.minted ++ [m])
    (hmx : MintedAs m x) (htoken : x.sessionToken = s.store.drawn)
    (hcreated : x.createdAt = s.clock) (hexpires : s.clock ≤ x.expiresAt)
    (hrevoked : x.revokedAt = none)
    (hactive : (s.store.activeSessions s.clock x.subjectDid).length < maxActiveSessionsPerDid)
    (hrecent : (s.store.recentSessions s.clock x.subjectDid x.approvingDeviceId).length <
      maxApprovalsPerDevicePerHour) : SessionsSound t := by
  have hold : ∀ y ∈ t.store.sessions, y ∈ s.store.sessions ∨ y = x := by
    intro y hy
    rw [hsessions, List.mem_append, List.mem_singleton] at hy
    exact hy
  have holdm : ∀ n ∈ t.minted, n ∈ s.minted ∨ n = m := by
    intro n hn
    rw [hminted, List.mem_append, List.mem_singleton] at hn
    exact hn
  have hmtoken : m.sessionToken = s.store.drawn := hmx.sessionToken.symm.trans htoken
  -- the approvals that the limit counts are all among the sessions
  have hcount : (recentlyMinted s x.subjectDid x.approvingDeviceId).length ≤
      (s.store.recentSessions s.clock x.subjectDid x.approvingDeviceId).length := by
    refine length_le_of_keys (f := Minted.sessionToken) (g := WebSession.sessionToken)
      (hs.mintedNodup.sublist (List.filter_sublist.map _)) fun n hn => ?_
    obtain ⟨hmem, hn⟩ := List.mem_filter.1 hn
    rw [Bool.and_eq_true, Bool.and_eq_true, beq_iff_eq, beq_iff_eq, decide_eq_true_eq] at hn
    obtain ⟨⟨hdid, hdevice⟩, htime⟩ := hn
    obtain ⟨y, hy, hny⟩ := hs.kept n hmem htime
    refine ⟨y, List.mem_filter.2 ⟨hy, ?_⟩, hny.sessionToken⟩
    rw [Bool.and_eq_true, Bool.and_eq_true, beq_iff_eq, beq_iff_eq, decide_eq_true_eq]
    exact ⟨⟨hny.subjectDid.trans hdid, hny.approvingDeviceId.trans hdevice⟩,
      hny.createdAt ▸ htime⟩
  refine ⟨?_, ?_, ?_, ?_, ?_, ?_, ?_, fun did => ?_, fun did deviceId => ?_⟩
  · rw [hsessions]
    exact nodup_keys_append hs.nodup hs.drawn htoken
  · intro y hy
    rw [hdrawn]
    rcases hold y hy with hy | rfl
    · exact Nat.lt_succ_of_lt (hs.drawn y hy)
    · exact htoken ▸ Nat.lt_succ_self _
  · intro y hy
    rcases hold y hy with hy | rfl
    · exact hs.times y hy
    · rw [hrevoked]
      exact ⟨hcreated ▸ hexpires, fun r hr => nomatch hr⟩
  · intro y hy
    rw [hclock]
    rcases hold y hy with hy | rfl
    · exact hs.past y hy
    · exact hcreated ▸ Int.le_refl _
  · rw [hminted]
    exact nodup_keys_append hs.mintedNodup hs.mintedDrawn hmtoken
  · intro n hn
    rw [hdrawn]
    rcases holdm n hn with hn | rfl
    · exact Nat.lt_succ_of_lt (hs.mintedDrawn n hn)
    · exact hmtoken ▸ Nat.lt_succ_self _
  · intro n hn htime
    rw [hsessions]
    rcases holdm n hn with hn | rfl
    · obtain ⟨y, hy, hny⟩ := hs.kept n hn (hclock ▸ htime)
      exact ⟨y, List.mem_append_left _ hy, hny⟩
    · exact ⟨x, List.mem_append_right _ (List.mem_singleton.2 rfl), hmx⟩
  · rw [WebSessionStore.activeSessions, hsessions, List.filter_append, List.length_append, hclock]
    by_cases hdid : x.subjectDid = did
    · have hone := List.length_filter_le
        (fun y => y.subjectDid == did && isActive s.clock y) [x]
      rw [List.length_singleton] at hone
      rw [hdid] at hactive
      exact Nat.le_trans (Nat.add_le_add_left hone _) hactive
    · have hnone : [x].filter (fun y => y.subjectDid == did && isActive s.clock y) = [] := by
        simp [hdid]
      rw [hnone]
      exact hs.active did
  · rw [recentlyMinted, hminted, List.filter_append, List.length_append, hclock]
    by_cases hkey : x.subjectDid = did ∧ x.approvingDeviceId = deviceId
    · have hone := List.length_filter_le (fun n : Minted => n.subjectDid == did &&
        n.approvingDeviceId == deviceId && decide (s.clock - approvalWindow < n.time)) [m]
      rw [List.length_singleton] at hone
      rw [hkey.1, hkey.2] at hcount hrecent
      exact Nat.le_trans (Nat.add_le_add hcount hone) hrecent
    · have hnone : [m].filter (fun n : Minted => n.subjectDid == did &&
          n.approvingDeviceId == deviceId && decide (s.clock - approvalWindow < n.time)) = [] := by
        rw [hmx.subjectDid, hmx.approvingDeviceId] at hkey
        simp only [List.filter_cons, List.filter_nil]
        rw [if_neg]
        rw [Bool.and_eq_true, Bool.and_eq_true, beq_iff_eq, beq_iff_eq]
        exact fun h => hkey h.1
      rw [hnone]
      exact hs.approvals did deviceId

/-! ### Steps -/

structure SessionSound (s : SessionSystem) : Prop where
  challenges : ChallengesSound s
  sessions : SessionsSound s

theorem getPendingChallenge_eq_ok {s : WebSessionStore} (h : getPendingChallenge now id s = .ok c) :
    s.challenge id = some c ∧ c.status = .pending := by
  unfold getPendingChallenge at h
  cases hc : s.challenge id with
  | none => rw [hc] at h; cases h
  | some c' =>
    rw [hc] at h
    cases hstatus : c'.status with
    | pending =>
      simp only [hstatus] at h
      split at h
      · cases h
      · cases h
        exact ⟨rfl, hstatus⟩
    | approved => simp only [hstatus] at h; cases h
    | rejected => simp only [hstatus] at h; cases h
    | expired => simp only [hstatus] at h; cases h

theorem checkApproval_eq_ok {attrs : ApprovalAttrs} {s : WebSessionStore}
    (h : checkApproval now id attrs s = .ok c) :
    s.challenge id = some c ∧ c.status = .pending ∧
      (s.activeSessions now attrs.subjectDid).length < maxActiveSessionsPerDid ∧
      (s.recentSessions now attrs.subjectDid attrs.approvingDeviceId).length <
        maxApprovalsPerDevicePerHour := by
  obtain ⟨c', hget, h₁⟩ := bind_eq_ok.1 h
  obtain ⟨_, -, h₂⟩ := bind_eq_ok.1 h₁
  obtain ⟨_, hcap, h₃⟩ := bind_eq_ok.1 h₂
  obtain ⟨_, hcooldown, h₄⟩ := bind_eq_ok.1 h₃
  obtain ⟨_, -, h₅⟩ := bind_eq_ok.1 h₄
  cases h₅
  obtain ⟨hc, hpending⟩ := getPendingChallenge_eq_ok hget
  refine ⟨hc, hpending, ?_, ?_⟩
  · unfold enforceActiveSessionCap at hcap
    split at hcap
    · cases hcap
    · next hlt => exact Nat.lt_of_not_le hlt
  · unfold enforceDeviceApprovalCooldown at hcooldown
    split at hcooldown
    · cases hcooldown
    · next hlt => exact Nat.lt_of_not_le hlt

theorem wait_le (t : Time) (n : ℕ) : t ≤ t + n := Int.le_add_of_nonneg_right (Int.natCast_nonneg n)

/-- An approval that comes through. -/
theorem SessionSound.approve (hs : SessionSound s) (hnow : s.clock ≤ now) {attrs : ApprovalAttrs}
    (hexpires : now ≤ attrs.expiresAt) (hcheck : checkApproval now id attrs s.store = .ok c) :
    SessionSound ⟨now, (approveChallenge now id attrs s.store).2,
        s.minted ++ mintedBy id (approveChallenge now id attrs s.store).1⟩ ∧
      Evolves s ⟨now, (approveChallenge now id attrs s.store).2,
        s.minted ++ mintedBy id (approveChallenge now id attrs s.store).1⟩ := by
  obtain ⟨hc, hpending, hactive, hrecent⟩ := checkApproval_eq_ok hcheck
  obtain ⟨hmem, hid⟩ := challenge_eq_some hc
  let x := mint now c attrs s.store.drawn
  let c' : WebChallenge :=
    { c with status := .approved, approvedSessionToken := some s.store.drawn }
  let t : SessionSystem := ⟨now, { s.store.putChallenge c' with
    sessions := s.store.sessions ++ [x], drawn := s.store.drawn + 1 }, s.minted ++
      mintedBy id (.ok x)⟩
  have hr : approveChallenge now id attrs s.store = (.ok x, t.store) := by
    rw [approveChallenge, hcheck]
    rfl
  rw [hr]
  have hnew : ∀ m ∈ mintedBy id (.ok x), m.challengeId = c.challengeId ∧ c.status = .pending ∧
      c'.status = .approved := by
    intro m hm
    obtain rfl := List.mem_singleton.1 hm
    exact ⟨hid.symm, hpending, rfl⟩
  obtain ⟨hchallenges, hevolves⟩ := @ChallengesSound.put s t c c' _ hs.challenges hmem rfl
    (.inl hpending) hnew le_rfl rfl (Nat.le_succ _) rfl
  -- time passes first, and then the session is minted
  have hlater : SessionsSound ⟨now, s.store, s.minted⟩ := hs.sessions.same hnow le_rfl rfl rfl
  have hsessions : SessionsSound t := hlater.append rfl rfl rfl rfl ⟨rfl, rfl, rfl, rfl⟩ rfl rfl
    hexpires rfl hactive hrecent
  exact ⟨⟨hchallenges, hsessions⟩, hevolves⟩

/-- The status of a challenge moves, and no session is minted. -/
theorem SessionSound.putChallenge (hs : SessionSound s) (hnow : s.clock ≤ now)
    (hc : c ∈ s.store.challenges) {status : ChallengeStatus}
    (hstatus : c.status = .pending ∨ status = c.status) :
    SessionSound ⟨now, s.store.putChallenge { c with status := status }, s.minted⟩ ∧
      Evolves s ⟨now, s.store.putChallenge { c with status := status }, s.minted⟩ := by
  obtain ⟨hchallenges, hevolves⟩ := @ChallengesSound.put s
    ⟨now, s.store.putChallenge { c with status := status }, s.minted⟩ c { c with status := status }
    [] hs.challenges hc rfl hstatus (fun m hm => absurd hm List.not_mem_nil) (Nat.zero_le 1) rfl
    le_rfl (List.append_nil _).symm
  exact ⟨⟨hchallenges, hs.sessions.same hnow le_rfl rfl rfl⟩, hevolves⟩

theorem SessionSound.later (hs : SessionSound s) (hnow : s.clock ≤ now) :
    SessionSound ⟨now, s.store, s.minted⟩ ∧ Evolves s ⟨now, s.store, s.minted⟩ := by
  obtain ⟨hchallenges, hevolves⟩ := hs.challenges.sublist
    (t := ⟨now, s.store, s.minted⟩) (List.Sublist.refl _) le_rfl rfl
  exact ⟨⟨hchallenges, hs.sessions.same hnow le_rfl rfl rfl⟩, hevolves⟩

theorem SessionSound.sweep (hs : SessionSound s) (hnow : s.clock ≤ now) :
    SessionSound ⟨now, WebSessionStore.sweep now s.store, s.minted⟩ ∧
      Evolves s ⟨now, WebSessionStore.sweep now s.store, s.minted⟩ := by
  obtain ⟨hchallenges, hevolves⟩ := hs.challenges.sublist
    (t := ⟨now, WebSessionStore.sweep now s.store, s.minted⟩) List.filter_sublist le_rfl rfl
  refine ⟨⟨hchallenges, hs.sessions.shrink hnow le_rfl rfl
    (hs.sessions.nodup.sublist (List.filter_sublist.map _)) ?_ ?_⟩, hevolves⟩
  · intro y hy
    exact ⟨y, (List.mem_filter.1 hy).1, .refl y, .inl rfl⟩
  · intro x hx hrecent
    refine ⟨x, List.mem_filter.2 ⟨hx, ?_⟩, .refl x⟩
    obtain ⟨hexpires, hrevoked⟩ := hs.sessions.times x hx
    rw [Bool.not_eq_true', prunableSession, Bool.or_eq_false_iff, Bool.and_eq_false_iff]
    refine ⟨?_, .inr ?_⟩
    · cases hr : x.revokedAt with
      | none => rfl
      | some r =>
        rw [Option.any_some, decide_eq_false_iff_not]
        exact Int.not_lt.2 (Int.le_of_lt (Int.lt_of_lt_of_le hrecent (hrevoked r hr)))
    · rw [decide_eq_false_iff_not]
      exact Int.not_lt.2 (Int.le_of_lt (Int.lt_of_lt_of_le hrecent hexpires))

theorem session_eq_some {s : WebSessionStore} {token : ℕ} (h : s.session token = some x) :
    x ∈ s.sessions :=
  List.mem_of_find?_eq_some h

theorem putSession_tokens (s : WebSessionStore) (x : WebSession) :
    (s.putSession x).sessions.map (·.sessionToken) = s.sessions.map (·.sessionToken) := by
  rw [putSession, List.map_map]
  refine List.map_congr_left fun y _ => ?_
  rw [Function.comp_apply]
  split
  · next h => exact h.symm
  · rfl

theorem SessionSound.revoke (hs : SessionSound s) (hnow : s.clock ≤ now)
    (hx : x ∈ s.store.sessions) :
    SessionSound ⟨now, s.store.putSession { x with revokedAt := some now }, s.minted⟩ ∧
      Evolves s ⟨now, s.store.putSession { x with revokedAt := some now }, s.minted⟩ := by
  obtain ⟨hchallenges, hevolves⟩ := hs.challenges.sublist
    (t := ⟨now, s.store.putSession { x with revokedAt := some now }, s.minted⟩)
    (List.Sublist.refl _) le_rfl rfl
  refine ⟨⟨hchallenges, hs.sessions.shrink hnow le_rfl rfl ?_ ?_ ?_⟩, hevolves⟩
  · rw [putSession_tokens]
    exact hs.sessions.nodup
  · intro y hy
    obtain ⟨z, hz, rfl⟩ := List.mem_map.1 hy
    dsimp only
    split
    · exact ⟨x, hx, ⟨rfl, rfl, rfl, rfl, rfl⟩, .inr rfl⟩
    · exact ⟨z, hz, .refl z, .inl rfl⟩
  · intro z hz _
    refine ⟨_, List.mem_map_of_mem hz, ?_⟩
    split
    · next heq =>
      obtain rfl : z = x := List.inj_on_of_nodup_map hs.sessions.nodup hz hx heq
      exact ⟨rfl, rfl, rfl, rfl, rfl⟩
    · exact .refl z

theorem exchange_state (now : Time) (id : ℕ) (s : WebSessionStore) :
    (WebSessionStore.exchange now id s).2 = (pollChallenge now id s).2 := by
  rw [WebSessionStore.exchange]
  generalize pollChallenge now id s = r
  obtain ⟨_ | c, t⟩ := r
  · rfl
  · dsimp only
    split <;> rfl

/-- **What an orderly step preserves.** -/
theorem SessionSound.step (hs : SessionSound s) {a : SessionStep} (ha : Orderly s a) :
    SessionSound (sessionStep s a) ∧ Evolves s (sessionStep s a) := by
  obtain ⟨wait, op⟩ := a
  have hnow : s.clock ≤ s.clock + wait := wait_le s.clock wait
  have hlater := hs.later hnow
  rw [sessionStep]
  cases op with
  | create attrs =>
    simp only [SessionOp.run, List.append_nil]
    obtain ⟨hchallenges, hevolves⟩ := hs.challenges.append
      (t := ⟨s.clock + wait, (issueChallenge (s.clock + wait) attrs s.store).2, s.minted⟩)
      rfl rfl rfl rfl
    exact ⟨⟨hchallenges, hs.sessions.same hnow (Nat.le_succ _) rfl rfl⟩, hevolves⟩
  | approve id attrs =>
    cases hcheck : checkApproval (s.clock + wait) id attrs s.store with
    | error e =>
      simpa only [SessionOp.run, approveChallenge, hcheck, mintedBy, List.append_nil] using hlater
    | ok c => exact hs.approve hnow ha hcheck
  | reject id =>
    simp only [SessionOp.run, List.append_nil, rejectChallenge]
    cases hc : s.store.challenge id with
    | none => exact hlater
    | some c =>
      have hstatus : c.status = .pending ∨ ChallengeStatus.rejected = c.status :=
        (ha c hc).imp_right Eq.symm
      exact hs.putChallenge hnow (challenge_eq_some hc).1 hstatus
  | exchange id =>
    simp only [SessionOp.run, List.append_nil, exchange_state, pollChallenge]
    cases hc : s.store.challenge id with
    | none => exact hlater
    | some c =>
      dsimp only
      split
      · next hpending => exact hs.putChallenge hnow (challenge_eq_some hc).1 (.inl hpending.1)
      · exact hlater
  | revoke token =>
    simp only [SessionOp.run, List.append_nil, revokeSession]
    cases hx : s.store.session token with
    | none => exact hlater
    | some x => exact hs.revoke hnow (session_eq_some hx)
  | sweep =>
    simp only [SessionOp.run, List.append_nil]
    exact hs.sweep hnow
  | idle =>
    simp only [SessionOp.run, List.append_nil]
    exact hlater

/-! ### Runs -/

theorem sessionSound_empty (clock : Time) : SessionSound (.empty clock) where
  challenges := ⟨List.nodup_nil, nofun, nofun, List.nodup_nil⟩
  sessions := ⟨List.nodup_nil, nofun, nofun, nofun, List.nodup_nil, nofun, nofun,
    fun _ => Nat.zero_le _, fun _ _ => Nat.zero_le _⟩

theorem SessionSound.law (hs : SessionSound s) : SessionLaw s where
  oneSession := hs.challenges.oneSession
  rejected := by
    intro c hc hrejected m hm heq
    have happroved := (hs.challenges.minted m hm).2 c hc heq.symm
    rw [hrejected] at happroved
    cases happroved
  active := hs.sessions.active
  approvals := hs.sessions.approvals

theorem SessionSound.run (hs : SessionSound s) {as : List SessionStep}
    (h : Along sessionStep Orderly s as) :
    SessionSound (exec sessionStep s as) ∧ Evolves s (exec sessionStep s as) := by
  refine h.invariant (I := fun t => SessionSound t ∧ Evolves s t) ?_ ⟨hs, .refl hs.challenges⟩
  rintro t a ⟨ht, hst⟩ ha
  obtain ⟨ht', htt'⟩ := ht.step ha
  exact ⟨ht', hst.trans hs.challenges htt'⟩

/-- **In every orderly run the law holds, and a challenge that has left pending keeps its status
from any state of the run to any later one.**  The two halves of the run are taken one after the
other: the first gives a sound state, from which the second only moves challenges on from pending.
-/
theorem web_session_law (clock : Time) {as bs : List SessionStep}
    (h : Along sessionStep Orderly (.empty clock) (as ++ bs)) :
    SessionLaw (exec sessionStep (.empty clock) (as ++ bs)) ∧
      Absorbs (exec sessionStep (.empty clock) as)
        (exec sessionStep (.empty clock) (as ++ bs)) := by
  obtain ⟨has, hbs⟩ := along_append.1 h
  obtain ⟨hmid, -⟩ := (sessionSound_empty clock).run has
  obtain ⟨hend, hevolves⟩ := hmid.run hbs
  rw [exec_append]
  exact ⟨hend.law, hevolves.absorbs⟩

/-! ### One run -/

/-- A browser asks for a challenge, and the app of a user approves it. -/
def approvedRun : List SessionStep :=
  [⟨0, .create ⟨"https://web.test", "https://relay.test", none, ["read"], none⟩⟩,
    ⟨5, .approve 0 ⟨"did:elix:a", "phone", ["read"], seconds 600⟩⟩]

/-- A second challenge is rejected, the session is revoked, and a sweep removes all. -/
def laterRun : List SessionStep :=
  [⟨0, .exchange 0⟩, ⟨1, .create ⟨"https://web.test", "https://relay.test", none, [], some 60⟩⟩,
    ⟨1, .reject 2⟩, ⟨1, .revoke 1⟩, ⟨10000000000, .sweep⟩]

theorem web_session_law_toy :
    SessionLaw (exec sessionStep (.empty 0) (approvedRun ++ laterRun)) ∧
      Absorbs (exec sessionStep (.empty 0) approvedRun)
        (exec sessionStep (.empty 0) (approvedRun ++ laterRun)) :=
  web_session_law 0 (by decide +kernel)

/-- The statuses of the challenges, and the challenges that have minted a session. -/
def SessionSystem.outcome (s : SessionSystem) : List (ℕ × ChallengeStatus) × List ℕ :=
  (s.store.challenges.map fun c => (c.challengeId, c.status), s.minted.map (·.challengeId))

/-- The challenge is rejected after its approval has minted a session. -/
theorem approved_challenge_is_rejected :
    ¬ (SessionLaw (exec sessionStep (.empty 0) (approvedRun ++ [⟨0, .reject 0⟩])) ∧
      Absorbs (exec sessionStep (.empty 0) approvedRun)
        (exec sessionStep (.empty 0) (approvedRun ++ [⟨0, .reject 0⟩]))) := by
  have h : (exec sessionStep (.empty 0) (approvedRun ++ [⟨0, .reject 0⟩])).outcome =
    ([(0, .rejected)], [0]) := by decide +kernel
  rintro ⟨hlaw, -⟩
  generalize exec sessionStep (.empty 0) (approvedRun ++ [⟨0, .reject 0⟩]) = s at h hlaw
  obtain ⟨hchallenges, hminted⟩ := Prod.mk.inj h
  have hc : (0, ChallengeStatus.rejected) ∈
      s.store.challenges.map fun c => (c.challengeId, c.status) := by
    rw [hchallenges]
    exact List.mem_singleton.2 rfl
  have hm : 0 ∈ s.minted.map (·.challengeId) := hminted ▸ List.mem_singleton.2 rfl
  obtain ⟨c, hc, heq⟩ := List.mem_map.1 hc
  obtain ⟨m, hm, hmid⟩ := List.mem_map.1 hm
  obtain ⟨hid, hstatus⟩ := Prod.mk.inj heq
  exact hlaw.rejected c hc hstatus m hm (hmid.trans hid.symm)

end Ansible
