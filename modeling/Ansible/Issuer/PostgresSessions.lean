import Ansible.Issuer.FileSessions

/-!
# Sessions in PostgreSQL

The calls of the store over PostgreSQL run their statements one by one, and the
statements of other calls run in between.  A transaction sees what is committed when a
statement starts, shows its own writes at its commit, and makes others wait for the rows
it has written.

## Main definitions

* `PgCall` — a call in flight, by the statement that it stands before.
* `PgRun`, `PgAct`, `pgStep` — the tables with the calls in flight, and the steps.

## Main results

* `sessions_single_use` — **every session is consumed at most once and no replay id is
  accepted twice before its expiry, in the store in a file, and in the store over PostgreSQL
  when no call reads a record that another one has read and is about to mark.**
-/

namespace Ansible.Vc

/-! ### Calls -/

/-- A call in flight, by the statement that it stands before. -/
inductive PgCall where
  /-- `ConsumeAuthState`, before it looks for the replay id. -/
  | authBegun (state replayID : String) (now : Instant)
  /-- Before it reads the session. -/
  | authChecked (state replayID : String) (now : Instant)
  /-- Before it marks the session that it has read. -/
  | authRead (state replayID : String) (session : AuthSession) (opening : ℕ)
  /-- Before it records the replay id; whether the mark met a row. -/
  | authMarked (state replayID : String) (session : AuthSession) (opening : ℕ) (met : Bool)
  /-- Before it commits. -/
  | authRecorded (state replayID : String) (session : AuthSession) (opening : ℕ) (met : Bool)
  /-- `MarkReplayIDConsumed`, before it looks for the id. -/
  | markBegun (replayID : String) (expiresAt now : Instant)
  | markChecked (replayID : String) (expiresAt : Instant)
  /-- `ConsumeVerifiedSession`, before it reads the session. -/
  | verifiedBegun (offerID : String)
  | verifiedRead (offerID : String) (session : VerifiedSession) (opening : ℕ)
  | verifiedMarked (offerID : String) (session : VerifiedSession) (opening : ℕ) (met : Bool)
  deriving DecidableEq, Repr

namespace PgCall

/-- The session that the call has read, by its ticket and its opening. -/
def ticket? : PgCall → Option (Ticket × ℕ)
  | .authRead state _ _ opening | .authMarked state _ _ opening _
  | .authRecorded state _ _ opening _ => some (.state state, opening)
  | .verifiedRead offerID _ opening | .verifiedMarked offerID _ opening _ =>
    some (.offer offerID, opening)
  | _ => none

/-- The replay id that the call has not found. -/
def replay? : PgCall → Option String
  | .authChecked _ replayID _ | .authRead _ replayID _ _ | .authMarked _ replayID _ _ _
  | .authRecorded _ replayID _ _ _ => if replayID = "" then none else some replayID
  | .markChecked replayID _ => some replayID
  | _ => none

/-- The ticket whose session the next statement reads. -/
def selects : PgCall → Option Ticket
  | .authChecked state _ _ => some (.state state)
  | .verifiedBegun offerID => some (.offer offerID)
  | _ => none

/-- The replay id that the next statement looks for. -/
def selectsReplay : PgCall → Option String
  | .authBegun _ replayID _ => if replayID = "" then none else some replayID
  | .markBegun replayID _ _ => some replayID
  | _ => none

/-- The mark of the call met no row. -/
def missed : PgCall → Bool
  | .authMarked _ _ _ _ met | .authRecorded _ _ _ _ met | .verifiedMarked _ _ _ met => !met
  | _ => false

/-- The row that the call has written and not committed. -/
def locks : PgCall → Option Ticket
  | .authMarked state _ _ _ met | .authRecorded state _ _ _ met =>
    if met then some (.state state) else none
  | .verifiedMarked offerID _ _ met => if met then some (.offer offerID) else none
  | _ => none

def locksReplay : PgCall → Option String
  | .authRecorded _ replayID _ _ _ => if replayID = "" then none else some replayID
  | _ => none

/-- The instant that the call goes by when it looks for a replay id. -/
def begun : PgCall → Option Instant
  | .authBegun _ _ now | .markBegun _ _ now => some now
  | _ => none

end PgCall

/-! ### Steps -/

/-- The committed tables, the calls in flight, and the ledger. -/
structure PgRun where
  data : SessionData := {}
  calls : Assoc ℕ PgCall := ∅
  ledger : Ledger

/-- What a call returns when it succeeds. -/
inductive SessionReply where
  | auth (session : AuthSession)
  | verified (session : VerifiedSession)
  | marked
  deriving DecidableEq, Repr

/-- `UPDATE … SET consumed = true`, of a row that exists. -/
def SessionData.setConsumed (d : SessionData) : Ticket → SessionData
  | .state state =>
    match d.authSessions.lookup state with
    | some session => d.markAuth state session
    | none => d
  | .offer offerID =>
    match d.verifiedSessions.lookup offerID with
    | some session => d.markVerified offerID session
    | none => d

namespace PgRun

/-- Another call holds the row of the ticket. -/
def locked (s : PgRun) (id : ℕ) (t : Ticket) : Bool :=
  s.calls.entries.any fun e => e.1 != id && e.2.locks == some t

def lockedReplay (s : PgRun) (id : ℕ) (replayID : String) : Bool :=
  s.calls.entries.any fun e => e.1 != id && e.2.locksReplay == some replayID

/-- The call stands before its next statement. -/
def goto (s : PgRun) (id : ℕ) (c : PgCall) : PgRun := { s with calls := s.calls.insert id c }

/-- The call is over. -/
def finish (s : PgRun) (id : ℕ) : PgRun := { s with calls := s.calls.erase id }

/-- A call begins; ids are not reused. -/
def start (s : PgRun) (id : ℕ) (c : PgCall) : PgRun := if id ∈ s.calls then s else s.goto id c

/-- The commit of a consumption: the row it met is marked. -/
def consume (s : PgRun) (id : ℕ) (t : Ticket) (opening : ℕ) (met : Bool) (replayID : String)
    (expiresAt : Instant) : PgRun where
  data := (if met then s.data.setConsumed t else s.data).markReplay replayID expiresAt
  calls := s.calls.erase id
  ledger := (s.ledger.consume t opening).acceptReplay replayID expiresAt

/-- The next statement of a call, which waits for a row that another call holds. -/
def perform (id : ℕ) (now : Instant) (s : PgRun) :
    PgCall → Option (Except SessionError SessionReply) × PgRun
  | .authBegun state replayID begun =>
    if replayID ≠ "" ∧ (s.data.replayIDs.lookup replayID).any (decide <| begun < ·) then
      (some (.error .replay), s.finish id)
    else (none, s.goto id (.authChecked state replayID begun))
  | .authChecked state replayID begun =>
    match s.data.authSessions.lookup state with
    | none => (some (.error .stateNotFound), s.finish id)
    | some session =>
      if session.consumed then (some (.error .replay), s.finish id)
      else if ¬ begun < session.expiresAt then (some (.error .expiredSessionState), s.finish id)
      else (none, s.goto id (.authRead state replayID session (s.ledger.opened (.state state))))
  | .authRead state replayID session opening =>
    if s.locked id (.state state) then (none, s)
    else (none, s.goto id (.authMarked state replayID session opening
      (s.data.authSessions.lookup state).isSome))
  | .authMarked state replayID session opening met =>
    if replayID ≠ "" ∧ s.lockedReplay id replayID then (none, s)
    else (none, s.goto id (.authRecorded state replayID session opening met))
  | .authRecorded state replayID session opening met =>
    (some (.ok (.auth { session with consumed := true })),
      s.consume id (.state state) opening met replayID session.expiresAt)
  | .markBegun replayID expiresAt begun =>
    if (s.data.replayIDs.lookup replayID).any (decide <| begun < ·) then
      (some (.error .replay), s.finish id)
    else (none, s.goto id (.markChecked replayID expiresAt))
  | .markChecked replayID expiresAt =>
    if s.lockedReplay id replayID then (none, s)
    else (some (.ok .marked), { s.finish id with
      data := s.data.markReplay replayID expiresAt
      ledger := s.ledger.acceptReplay replayID expiresAt })
  | .verifiedBegun offerID =>
    let s := { s with ledger := s.ledger.tick now }
    match s.data.verifiedSessions.lookup offerID with
    | none => (some (.error .verifiedNotFound), s.finish id)
    | some session =>
      if session.consumed ∨ ¬ now < session.expiresAt then
        (some (.error .verifiedNotFound), s.finish id)
      else (none, s.goto id (.verifiedRead offerID session (s.ledger.opened (.offer offerID))))
  | .verifiedRead offerID session opening =>
    if s.locked id (.offer offerID) then (none, s)
    else (none, s.goto id (.verifiedMarked offerID session opening
      (s.data.verifiedSessions.lookup offerID).isSome))
  | .verifiedMarked offerID session opening met =>
    (some (.ok (.verified { session with consumed := true })),
      s.consume id (.offer offerID) opening met "" session.expiresAt)

end PgRun

inductive PgAct where
  | consumeAuthState (id : ℕ) (state replayID : String) (now : Instant)
  | markReplayIDConsumed (id : ℕ) (replayID : String) (expiresAt now : Instant)
  | consumeVerifiedSession (id : ℕ) (offerID : String)
  /-- The next statement of a call, at an instant. -/
  | perform (id : ℕ) (now : Instant)
  /-- The call fails, and its transaction is rolled back. -/
  | rollback (id : ℕ)
  | createAuthSession (session : AuthSession)
  | storeVerifiedSession (session : VerifiedSession)
  | deleteAuthSessions (retention now : Instant)
  | deleteVerifiedSessions (retention now : Instant)
  | deleteReplayIDs (retention now : Instant)

open SessionStore (expiredBeyondRetention replayKey)

/-- A row that some call holds is one of those to be deleted. -/
def PgRun.holds (s : PgRun) (p : Ticket → Bool) : Bool :=
  s.calls.entries.any fun e => e.2.locks.any p

/-- One step. -/
def pgStep (s : PgRun) : PgAct → PgRun
  | .consumeAuthState id state replayID now =>
    { s.start id (.authBegun state (replayKey state replayID) now) with
      ledger := s.ledger.tick now }
  | .markReplayIDConsumed id replayID expiresAt now =>
    if replayID = "" then s
    else { s.start id (.markBegun replayID expiresAt now) with ledger := s.ledger.tick now }
  | .consumeVerifiedSession id offerID => s.start id (.verifiedBegun offerID)
  | .perform id now =>
    match s.calls.lookup id with
    | some c => (s.perform id now c).2
    | none => s
  | .rollback id => s.finish id
  | .createAuthSession session =>
    if session.offerID = "" ∨ session.state = "" ∨ session.did = "" ∨
        s.holds (· == .state session.state) then s
    else { s with
      data := { s.data with authSessions := s.data.authSessions.insert session.state session }
      ledger := s.ledger.openTicket (.state session.state) }
  | .storeVerifiedSession session =>
    if session.offerID = "" ∨ session.did = "" ∨ session.subjectCommitment = "" ∨
        s.holds (· == .offer session.offerID) then s
    else { s with
      data := { s.data with
        verifiedSessions := s.data.verifiedSessions.insert session.offerID session }
      ledger := s.ledger.openTicket (.offer session.offerID) }
  | .deleteAuthSessions retention now =>
    let keep (a : AuthSession) := !expiredBeyondRetention a.expiresAt retention now
    if s.holds (fun
        | .state state => (s.data.authSessions.lookup state).any (!keep ·)
        | .offer _ => false) then s
    else { s with data := { s.data with authSessions := s.data.authSessions.filterValues keep } }
  | .deleteVerifiedSessions retention now =>
    let keep (v : VerifiedSession) := !expiredBeyondRetention v.expiresAt retention now
    if s.holds (fun
        | .state _ => false
        | .offer offerID => (s.data.verifiedSessions.lookup offerID).any (!keep ·)) then s
    else { s with
      data := { s.data with verifiedSessions := s.data.verifiedSessions.filterValues keep } }
  | .deleteReplayIDs retention now =>
    let keep (e : Instant) := !expiredBeyondRetention e retention now
    if s.calls.entries.any (fun e => e.2.locksReplay.any fun r =>
        (s.data.replayIDs.lookup r).any (!keep ·)) then s
    else { s with
      data := { s.data with replayIDs := s.data.replayIDs.filterValues keep }
      ledger := s.ledger.tick now }

/-! ### What a call may rely on -/

/-- Another call in flight has read the record that the next statement of the call reads. -/
def PgRun.disturbed (s : PgRun) (id : ℕ) (c : PgCall) : Bool :=
  s.calls.entries.any fun e => e.1 != id &&
    (c.selects.any (fun t => e.2.ticket? == some (t, s.ledger.opened t)) ||
      c.selectsReplay.any (fun r => e.2.replay? == some r))

/-- The step reads no record that another call in flight has read. -/
def PgRun.Undisturbed (s : PgRun) : PgAct → Prop
  | .perform id _ => (s.calls.lookup id).any (s.disturbed id) = false
  | _ => True

instance PgRun.decidableUndisturbed (s : PgRun) (act : PgAct) : Decidable
    (PgRun.Undisturbed s act) := by
  unfold PgRun.Undisturbed
  split <;> infer_instance

/-- What a call has read still holds: its session is not consumed, a row that its mark did not
meet is gone, and its replay id is not alive. -/
structure PgCall.Good (l : Ledger) (d : SessionData) (c : PgCall) : Prop where
  fresh : ∀ t n, c.ticket? = some (t, n) → (t, n) ∉ l.consumed ∧ n ≤ l.opened t
  gone : ∀ t n, c.ticket? = some (t, n) → c.missed → n = l.opened t → d.used t = none
  expired : ∀ r, c.replay? = some r → l.Expired r
  clock : ∀ now, c.begun = some now → now ≤ l.clock

/-- Two calls have not read one session, nor missed one replay id. -/
structure PgCall.Apart (c c' : PgCall) : Prop where
  ticket : ∀ x, c.ticket? = some x → c'.ticket? ≠ some x
  replay : ∀ r, c.replay? = some r → c'.replay? ≠ some r

/-- The ledger is in order, the tables remember it, and no two calls have read one record. -/
structure PgRun.Sound (s : PgRun) : Prop where
  valid : s.ledger.Valid
  covers : s.ledger.Covers s.data
  good : ∀ id c, s.calls.lookup id = some c → c.Good s.ledger s.data
  apart : ∀ id c id' c', s.calls.lookup id = some c → s.calls.lookup id' = some c' → id ≠ id' →
    c.Apart c'

theorem PgCall.Apart.symm {c c' : PgCall} (h : c.Apart c') : c'.Apart c where
  ticket := fun x hx' hx => h.ticket x hx hx'
  replay := fun r hr' hr => h.replay r hr hr'

/-- A call stays good while its session is not consumed, its row does not come back without
being opened, and its replay id is not accepted. -/
theorem PgCall.Good.mono {l l' : Ledger} {d d' : SessionData} {c : PgCall} (h : c.Good l d)
    (hconsumed : ∀ x, c.ticket? = some x → x ∈ l'.consumed → x ∈ l.consumed)
    (hopened : ∀ t, l.opened t ≤ l'.opened t)
    (hused : ∀ t, l'.opened t = l.opened t → d.used t = none → d'.used t = none)
    (hexpired : ∀ r, c.replay? = some r → l.Expired r → l'.Expired r)
    (hclock : l.clock ≤ l'.clock) : c.Good l' d' where
  fresh := by
    intro t n hc
    obtain ⟨hnew, hle⟩ := h.fresh t n hc
    exact ⟨fun hmem => hnew (hconsumed _ hc hmem), le_trans hle (hopened t)⟩
  gone := by
    intro t n hc hmissed hn
    have hle := (h.fresh t n hc).2
    have hsame : l'.opened t = l.opened t := le_antisymm (hn ▸ hle) (hopened t)
    exact hused t hsame (h.gone t n hc hmissed (hn.trans hsame))
  expired := fun r hc => hexpired r hc (h.expired r hc)
  clock := fun now hc => le_trans (h.clock now hc) hclock

theorem PgCall.Good.tick {l : Ledger} {d : SessionData} {c : PgCall} (h : c.Good l d)
    (now : Instant) :
    c.Good (l.tick now) d :=
  h.mono (fun _ _ hmem => hmem) (fun _ => le_refl _) (fun _ _ hnone => hnone)
    (fun _ _ hexp => hexp.tick now) (le_max_left _ _)

/-- A call that stands before the next statement has read no more than before. -/
theorem PgCall.Good.next {l : Ledger} {d : SessionData} {c c' : PgCall} (h : c.Good l d)
    (hticket : c'.ticket? = c.ticket?) (hmissed : c'.missed = c.missed)
    (hreplay : c'.replay? = c.replay?) (hbegun : c'.begun = none) : c'.Good l d where
  fresh := fun t n hc => h.fresh t n (hticket ▸ hc)
  gone := fun t n hc hm => h.gone t n (hticket ▸ hc) (hmissed ▸ hm)
  expired := fun r hc => h.expired r (hreplay ▸ hc)
  clock := by
    intro now hc
    rw [hbegun] at hc
    cases hc

/-- A call that has read no session, and has missed a replay id that is not alive. -/
theorem PgCall.Good.of_expired {l : Ledger} {d : SessionData} {c : PgCall}
    (hticket : c.ticket? = none)
    (hexp : ∀ r, c.replay? = some r → l.Expired r)
    (hclock : ∀ now, c.begun = some now → now ≤ l.clock) : c.Good l d where
  fresh := by
    intro t n hc
    rw [hticket] at hc
    cases hc
  gone := by
    intro t n hc
    rw [hticket] at hc
    cases hc
  expired := hexp
  clock := hclock

/-- A call that has just read a session that is not consumed. -/
theorem PgCall.Good.of_free {l : Ledger} {d : SessionData} {c : PgCall} {t : Ticket}
    (hcovers : l.Covers d) (hticket : c.ticket? = some (t, l.opened t)) (hmissed : c.missed = false)
    (hfree : d.used t = some false) (hexp : ∀ r, c.replay? = some r → l.Expired r)
    (hbegun : c.begun = none) : c.Good l d where
  fresh := by
    intro t' n hc
    rw [hticket] at hc
    cases hc
    exact ⟨fun hmem => hcovers.tickets t hmem hfree, le_refl _⟩
  gone := by
    intro t' n _ hm
    rw [hmissed] at hm
    cases hm
  expired := hexp
  clock := by
    intro now hc
    rw [hbegun] at hc
    cases hc

/-- The record that the next statement reads has been read by no other call in flight. -/
theorem not_disturbed {s : PgRun} {id id' : ℕ} {c c' : PgCall} (h : s.disturbed id c = false)
    (hlook : s.calls.lookup id' = some c') (hne : id' ≠ id) :
    (∀ t, c.selects = some t → c'.ticket? ≠ some (t, s.ledger.opened t)) ∧
      ∀ r, c.selectsReplay = some r → c'.replay? ≠ some r := by
  have hentry := List.any_eq_false.1 h ⟨id', c'⟩ (AList.mem_lookup_iff.1 hlook)
  have hid : (id' != id) = true := bne_iff_ne.2 hne
  rw [hid, Bool.true_and, Bool.or_eq_true, not_or] at hentry
  refine ⟨fun t ht hc => hentry.1 ?_, fun r hr hc => hentry.2 ?_⟩
  · rw [ht, Option.any_some, hc, beq_self_eq_true]
  · rw [hr, Option.any_some, hc, beq_self_eq_true]

theorem replay_eq_some {replayID r : String}
    (h : (if replayID = "" then none else some replayID) = some r) : replayID ≠ "" ∧
      replayID = r := by
  split at h
  · cases h
  · exact ⟨‹_›, Option.some.inj h⟩

/-! ### The tables after a commit -/

namespace SessionData

variable (d : SessionData)

theorem used_setConsumed (t t' : Ticket) :
    (d.setConsumed t).used t' = if t' = t then (d.used t).map (fun _ => true) else d.used t' := by
  cases t with
  | state state =>
    cases hrow : d.authSessions.lookup state with
    | none =>
      have hd : d.setConsumed (.state state) = d := by simp only [setConsumed, hrow]
      have hu : d.used (.state state) = none := by simp only [used, hrow, Option.map_none]
      rw [hd, hu]
      split
      · rename_i ht
        rw [ht, hu, Option.map_none]
      · rfl
    | some session =>
      have hd : d.setConsumed (.state state) = d.markAuth state session := by
        simp only [setConsumed, hrow]
      have hu : d.used (.state state) = some session.consumed := by
        simp only [used, hrow, Option.map_some]
      rw [hd, hu, used_markAuth, Option.map_some]
  | offer offerID =>
    cases hrow : d.verifiedSessions.lookup offerID with
    | none =>
      have hd : d.setConsumed (.offer offerID) = d := by simp only [setConsumed, hrow]
      have hu : d.used (.offer offerID) = none := by simp only [used, hrow, Option.map_none]
      rw [hd, hu]
      split
      · rename_i ht
        rw [ht, hu, Option.map_none]
      · rfl
    | some session =>
      have hd : d.setConsumed (.offer offerID) = d.markVerified offerID session := by
        simp only [setConsumed, hrow]
      have hu : d.used (.offer offerID) = some session.consumed := by
        simp only [used, hrow, Option.map_some]
      rw [hd, hu, used_markVerified, Option.map_some]

theorem replayIDs_setConsumed (t : Ticket) : (d.setConsumed t).replayIDs = d.replayIDs := by
  cases t <;> (unfold setConsumed; dsimp only; split <;> rfl)

theorem used_filterAuth {keep : AuthSession → Bool} {t : Ticket} {b : Bool}
    (h : used { d with authSessions := d.authSessions.filterValues keep } t = some b) :
    d.used t = some b := by
  cases t with
  | state state =>
    obtain ⟨a, ha, hb⟩ := Option.map_eq_some_iff.1 h
    exact Option.map_eq_some_iff.2 ⟨a, Assoc.lookup_of_filterValues ha, hb⟩
  | offer offerID => exact h

theorem used_filterVerified {keep : VerifiedSession → Bool} {t : Ticket} {b : Bool}
    (h : used { d with verifiedSessions := d.verifiedSessions.filterValues keep } t = some b) :
    d.used t = some b := by
  cases t with
  | state state => exact h
  | offer offerID =>
    obtain ⟨v, hv, hb⟩ := Option.map_eq_some_iff.1 h
    exact Option.map_eq_some_iff.2 ⟨v, Assoc.lookup_of_filterValues hv, hb⟩

theorem used_markReplay (r : String) (e : Instant) (t : Ticket) :
    (d.markReplay r e).used t = d.used t := by
  unfold markReplay
  split
  · rfl
  · cases t <;> rfl

end SessionData

/-! ### Steps keep the ledger in order -/

namespace PgRun.Sound

open Ledger

variable {s : PgRun} {id : ℕ} {c : PgCall}

variable {d : SessionData} {c' : PgCall} {t : Ticket}

/-- New tables and a new ledger, on which the calls may rely as before. -/
theorem transfer (h : s.Sound) {l : Ledger} (hv : l.Valid) (hc : l.Covers d)
    (hgood : ∀ id c, s.calls.lookup id = some c → c.Good s.ledger s.data → c.Good l d) :
    Sound { s with data := d, ledger := l } :=
  ⟨hv, hc, fun id c hlook => hgood id c hlook (h.good id c hlook), h.apart⟩

theorem tick (h : s.Sound) (now : Instant) : Sound { s with ledger := s.ledger.tick now } :=
  h.transfer (h.valid.tick now) (h.covers.tick now) fun _ _ _ hg => hg.tick now

/-- A call goes on, when it is good and apart from the others. -/
theorem goto (h : s.Sound) (hgood : c.Good s.ledger s.data)
    (hapart : ∀ id' c', s.calls.lookup id' = some c' → id' ≠ id → c.Apart c') :
    (s.goto id c).Sound where
  valid := h.valid
  covers := h.covers
  good := by
    intro id' c' hlook
    rw [PgRun.goto, Assoc.lookup_insert'] at hlook
    split at hlook
    · cases hlook
      exact hgood
    · exact h.good id' c' hlook
  apart := by
    intro id₁ c₁ id₂ c₂ h₁ h₂ hne
    rw [PgRun.goto, Assoc.lookup_insert'] at h₁ h₂
    -- at most one of the two is the call that goes on
    split at h₁
    · rename_i hid
      rw [if_neg fun heq => hne (hid.trans heq.symm)] at h₂
      cases h₁
      exact hapart id₂ c₂ h₂ fun heq => hne (hid.trans heq.symm)
    · rename_i hid
      split at h₂
      · cases h₂
        exact (hapart id₁ c₁ h₁ hid).symm
      · exact h.apart id₁ c₁ id₂ c₂ h₁ h₂ hne

theorem finish (h : s.Sound) (id : ℕ) : (s.finish id).Sound where
  valid := h.valid
  covers := h.covers
  good := fun id' c' hlook => h.good id' c' (Assoc.lookup_of_erase hlook).2
  apart := fun id₁ c₁ id₂ c₂ h₁ h₂ =>
    h.apart id₁ c₁ id₂ c₂ (Assoc.lookup_of_erase h₁).2 (Assoc.lookup_of_erase h₂).2

theorem start (h : s.Sound) (id : ℕ) (hticket : c.ticket? = none) (hreplay : c.replay? = none)
    (hclock : ∀ now, c.begun = some now → now ≤ s.ledger.clock) : (s.start id c).Sound := by
  unfold PgRun.start
  split
  · exact h
  · refine h.goto (.of_expired hticket ?_ hclock) fun _ _ _ _ => ⟨?_, ?_⟩
    · intro r hc
      rw [hreplay] at hc
      cases hc
    · intro x hc
      rw [hticket] at hc
      cases hc
    · intro r hc
      rw [hreplay] at hc
      cases hc

theorem next (h : s.Sound) (hlook : s.calls.lookup id = some c) (hgood : c'.Good s.ledger s.data)
    (hticket : c'.ticket? = c.ticket?) (hreplay : c'.replay? = c.replay?) :
    (s.goto id c').Sound := by
  refine h.goto hgood fun id' c'' hlook' hne => ⟨?_, ?_⟩
  · intro x hx
    exact (h.apart id c id' c'' hlook hlook' hne.symm).ticket x (hticket ▸ hx)
  · intro r hr
    exact (h.apart id c id' c'' hlook hlook' hne.symm).replay r (hreplay ▸ hr)

/-- The commit of a consumption. -/
theorem consume (h : s.Sound) (hlook : s.calls.lookup id = some c) {n : ℕ} {met : Bool} {r : String}
    (e : Instant) (hticket : c.ticket? = some (t, n)) (hmissed : met = false → c.missed = true)
    (hreplay : r ≠ "" → c.replay? = some r) : (s.consume id t n met r e).Sound := by
  have hg := h.good id c hlook
  obtain ⟨hnew, hle⟩ := hg.fresh t n hticket
  have hexp : r ≠ "" → s.ledger.Expired r := fun hr => hg.expired r (hreplay hr)
  -- the tables with the row marked, if there is one
  obtain ⟨d, hd⟩ : ∃ d, d = if met then s.data.setConsumed t else s.data := ⟨_, rfl⟩
  have hused : ∀ t', d.used t' = s.data.used t' ∨
      t' = t ∧ d.used t' = (s.data.used t).map fun _ => true := by
    intro t'
    rw [hd]
    split
    · rw [SessionData.used_setConsumed]
      split
      · exact .inr ⟨‹_›, rfl⟩
      · exact .inl rfl
    · exact .inl rfl
  have hreplays : d.replayIDs = s.data.replayIDs := by
    rw [hd]
    split
    · exact s.data.replayIDs_setConsumed t
    · rfl
  have hmarked : n = s.ledger.opened t → d.used t ≠ some false := by
    intro hn hfree
    cases met with
    | true =>
      rw [hd, if_pos rfl, SessionData.used_setConsumed, if_pos rfl] at hfree
      cases hrow : s.data.used t with
      | none =>
        rw [hrow] at hfree
        cases hfree
      | some used =>
        rw [hrow] at hfree
        cases hfree
    | false =>
      rw [hd, if_neg Bool.false_ne_true, hg.gone t n hticket (hmissed rfl) hn] at hfree
      cases hfree
  have hcovers : s.ledger.Covers d := by
    refine h.covers.forget (fun t' hfree => ?_) fun r' e' hrow => .inr (hreplays ▸ hrow)
    rcases hused t' with heq | ⟨-, heq⟩
    · exact heq ▸ hfree
    · rw [heq] at hfree
      obtain ⟨_, -, hfree⟩ := Option.map_eq_some_iff.1 hfree
      cases hfree
  refine (h.finish id).transfer (s := s.finish id) (d := _) (l := _) ?_ ?_
    fun id' c' hlook' hg' => ?_
  · exact (h.valid.consume hnew hle).acceptReplay hexp e
  · rw [← hd]
    exact (hcovers.consume hmarked).acceptReplay hexp e
  · obtain ⟨hne, hlook'⟩ := Assoc.lookup_of_erase hlook'
    have hapart := h.apart id c id' c' hlook hlook' hne.symm
    rw [← hd]
    refine hg'.mono ?_ ?_ ?_ ?_ ?_
    · intro x hx hmem
      rw [consumed_acceptReplay] at hmem
      rcases List.mem_cons.1 hmem with rfl | hmem
      · exact absurd hx (hapart.ticket _ hticket)
      · exact hmem
    · intro t'
      rw [opened_acceptReplay]
      exact le_refl _
    · intro t' _ hnone
      rw [SessionData.used_markReplay]
      rcases hused t' with heq | ⟨rfl, heq⟩
      · rw [heq]
        exact hnone
      · rw [heq]
        exact Option.map_eq_none_iff.2 hnone
    · intro r' hr' hexp'
      refine Expired.acceptReplay (l := s.ledger.consume t n) hexp' (fun hr => ?_) e
      rintro rfl
      exact hapart.replay _ (hreplay hr) hr'
    · rw [clock_acceptReplay]
      exact le_refl _

/-- A call that has found its replay id free. -/
theorem missReplay (h : s.Sound) (hund : s.disturbed id c = false) (hticket : c'.ticket? = none)
    (hbegun : c'.begun = none)
    (hreplay : ∀ r, c'.replay? = some r → c.selectsReplay = some r ∧ s.ledger.Expired r) :
    (s.goto id c').Sound := by
  refine h.goto (.of_expired hticket (fun r hr => (hreplay r hr).2) (by simp [hbegun]))
    fun id' c'' hlook' hne => ⟨by simp [hticket], fun r hr => ?_⟩
  exact (not_disturbed hund hlook' hne).2 r (hreplay r hr).1

/-- A call that has read its session, which is free, and which no other call has read. -/
theorem readTicket (h : s.Sound) (hlook : s.calls.lookup id = some c)
    (hund : s.disturbed id c = false) (hselects : c.selects = some t)
    (hticket : c'.ticket? = some (t, s.ledger.opened t)) (hfree : s.data.used t = some false)
    (hmissed : c'.missed = false) (hreplay : c'.replay? = c.replay?) (hbegun : c'.begun = none) :
    (s.goto id c').Sound := by
  have hexp : ∀ r, c'.replay? = some r → s.ledger.Expired r := fun r hr =>
    (h.good id c hlook).expired r (hreplay ▸ hr)
  refine h.goto (.of_free h.covers hticket hmissed hfree hexp hbegun) fun id' c'' hlook' hne =>
    ⟨fun x hx => ?_, fun r hr => ?_⟩
  · rw [hticket] at hx
    cases hx
    exact (not_disturbed hund hlook' hne).1 t hselects
  · exact (h.apart id c id' c'' hlook hlook' hne.symm).replay r (hreplay ▸ hr)

/-- A call that has marked the row of its session, or has met none. -/
theorem mark (h : s.Sound) (hlook : s.calls.lookup id = some c) {n : ℕ}
    (ht : c.ticket? = some (t, n)) (hticket : c'.ticket? = c.ticket?)
    (hmissed : c'.missed = true → s.data.used t = none) (hreplay : c'.replay? = c.replay?)
    (hbegun : c'.begun = none) : (s.goto id c').Sound := by
  have hg := h.good id c hlook
  refine h.next hlook ⟨fun t' n' hc => hg.fresh t' n' (hticket ▸ hc), fun t' n' hc hm _ => ?_,
    fun r hr => hg.expired r (hreplay ▸ hr), by simp [hbegun]⟩ hticket hreplay
  rw [hticket, ht] at hc
  cases hc
  exact hmissed hm

/-- The commit of a replay id that the call has found free. -/
theorem recordReplay (h : s.Sound) {replayID : String}
    (hlook : s.calls.lookup id = some c) (hreplay : c.replay? = some replayID) (e : Instant) :
    Sound { s.finish id with
      data := s.data.markReplay replayID e, ledger := s.ledger.acceptReplay replayID e } := by
  have hexp : replayID ≠ "" → s.ledger.Expired replayID := fun _ =>
    (h.good id c hlook).expired replayID hreplay
  refine (h.finish id).transfer (h.valid.acceptReplay hexp _) (h.covers.acceptReplay hexp _)
    fun id' c' hlook' hg' => ?_
  obtain ⟨hne, hlook'⟩ := Assoc.lookup_of_erase hlook'
  have hapart := h.apart id _ id' c' hlook hlook' hne.symm
  refine hg'.mono (fun x _ hmem => ?_) (fun t => ?_) (fun t _ hnone => ?_)
    (fun r hr hexp' => ?_) ?_
  · rwa [consumed_acceptReplay] at hmem
  · rw [opened_acceptReplay]
    exact le_refl _
  · rw [SessionData.used_markReplay]
    exact hnone
  · refine hexp'.acceptReplay (fun _ => ?_) _
    rintro rfl
    exact hapart.replay _ hreplay hr
  · rw [clock_acceptReplay]
    exact le_refl _

/-- **A statement of an undisturbed call keeps the invariant.**  Each stage has its lemma above: the
replay id is missed, the session read, its row marked, and the whole committed. -/
theorem perform (h : s.Sound) (hlook : s.calls.lookup id = some c)
    (hund : s.disturbed id c = false) (now : Instant) : (s.perform id now c).2.Sound := by
  have hg := h.good id c hlook
  cases c with
  | authBegun state replayID begun =>
    unfold PgRun.perform
    dsimp only
    split
    · exact h.finish id
    rename_i hfree
    refine h.missReplay hund rfl rfl fun r hr => ⟨hr, ?_⟩
    obtain ⟨hid, rfl⟩ := replay_eq_some hr
    exact h.covers.expired (hg.clock begun rfl)
      (Bool.eq_false_iff.2 fun halive => hfree ⟨hid, halive⟩)
  | authChecked state replayID begun =>
    unfold PgRun.perform
    dsimp only
    split
    · exact h.finish id
    rename_i session hrow
    split
    · exact h.finish id
    -- the session is free, and no other call has read it
    rename_i hfree
    split
    · exact h.finish id
    refine h.readTicket hlook hund rfl rfl ?_ rfl rfl rfl
    rw [SessionData.used, hrow, Option.map_some, Bool.eq_false_iff.2 hfree]
  | authRead state replayID session opening =>
    unfold PgRun.perform
    dsimp only
    split
    · exact h
    -- the mark has met no row
    refine h.mark hlook rfl rfl (fun hmissed => ?_) rfl rfl
    simpa [PgCall.missed, SessionData.used] using hmissed
  | authMarked state replayID session opening met =>
    unfold PgRun.perform
    dsimp only
    split
    · exact h
    · exact h.next hlook (hg.next rfl rfl rfl rfl) rfl rfl
  | authRecorded state replayID session opening met =>
    exact h.consume hlook _ rfl (fun hmet => by rw [PgCall.missed, hmet]; rfl)
      fun hr => if_neg hr
  | markBegun replayID expiresAt begun =>
    unfold PgRun.perform
    dsimp only
    split
    · exact h.finish id
    rename_i hfree
    refine h.missReplay hund rfl rfl fun r hr => ⟨hr, ?_⟩
    cases hr
    exact h.covers.expired (hg.clock begun rfl) (Bool.eq_false_iff.2 hfree)
  | markChecked replayID expiresAt =>
    unfold PgRun.perform
    dsimp only
    split
    · exact h
    · exact h.recordReplay hlook rfl expiresAt
  | verifiedBegun offerID =>
    have ht := h.tick now
    unfold PgRun.perform
    dsimp only
    split
    · exact ht.finish id
    rename_i session hrow
    split
    · exact ht.finish id
    rename_i hfree
    refine ht.readTicket hlook hund rfl rfl ?_ rfl rfl rfl
    rw [SessionData.used, hrow, Option.map_some, Bool.eq_false_iff.2 fun hc => hfree (.inl hc)]
  | verifiedRead offerID session opening =>
    unfold PgRun.perform
    dsimp only
    split
    · exact h
    refine h.mark hlook rfl rfl (fun hmissed => ?_) rfl rfl
    simpa [PgCall.missed, SessionData.used] using hmissed
  | verifiedMarked offerID session opening met =>
    exact h.consume hlook _ rfl (fun hmet => by rw [PgCall.missed, hmet]; rfl)
      fun hr => absurd rfl hr

/-- A call begins, and the clock is read. -/
theorem begin (h : s.Sound) (id : ℕ) (now : Instant) (hticket : c.ticket? = none)
    (hreplay : c.replay? = none) (hbegun : c.begun = some now) :
    Sound { s.start id c with ledger := s.ledger.tick now } := by
  have hstart : ({ s.start id c with ledger := s.ledger.tick now } : PgRun) =
      PgRun.start { s with ledger := s.ledger.tick now } id c := by
    unfold PgRun.start
    split <;> rfl
  rw [hstart]
  refine (h.tick now).start id hticket hreplay fun now' hb => ?_
  rw [hbegun] at hb
  cases hb
  exact le_max_right _ _

/-- A session is opened, anew or for the first time. -/
theorem opens (h : s.Sound) (t : Ticket) (hused : ∀ t', t' ≠ t → d.used t' = s.data.used t')
    (hreplays : d.replayIDs = s.data.replayIDs) :
    Sound { s with data := d, ledger := s.ledger.openTicket t } := by
  refine h.transfer (h.valid.openTicket t) (h.covers.openTicket h.valid t hused hreplays)
    fun id c _ hg => hg.mono (fun _ _ hmem => hmem) (le_opened t) (fun t' hsame hnone => ?_)
      (fun _ _ hexp => hexp) (le_refl _)
  have hne : t' ≠ t := by
    rintro rfl
    rw [opened_openTicket, if_pos rfl] at hsame
    omega
  rw [hused t' hne]
  exact hnone

/-- Records are deleted. -/
theorem deletes (h : s.Sound) (hused : ∀ t b, d.used t = some b → s.data.used t = some b)
    (hreplays : ∀ r e, s.data.replayIDs.lookup r = some e →
      e ≤ s.ledger.clock ∨ d.replayIDs.lookup r = some e) : Sound { s with data := d } := by
  refine h.transfer h.valid (h.covers.forget (fun t => hused t false) hreplays) fun id c _ hg =>
    hg.mono (fun _ _ hmem => hmem) (fun _ => le_refl _) (fun t _ hnone => ?_) (fun _ _ hexp => hexp)
      (le_refl _)
  cases hrow : d.used t with
  | none => rfl
  | some b => exact absurd (hnone.symm.trans (hused t b hrow)) (Option.some_ne_none b).symm

end PgRun.Sound

/-- **A step that is not disturbed keeps the ledger in order.** -/
theorem pgStep_sound {s : PgRun} (h : s.Sound) {act : PgAct} (hund : PgRun.Undisturbed s act) :
    (pgStep s act).Sound := by
  cases act with
  | consumeAuthState id state replayID now => exact h.begin id now rfl rfl rfl
  | markReplayIDConsumed id replayID expiresAt now =>
    unfold pgStep
    dsimp only
    split
    · exact h
    · exact h.begin id now rfl rfl rfl
  | consumeVerifiedSession id offerID => exact h.start id rfl rfl nofun
  | perform id now =>
    unfold pgStep
    dsimp only
    unfold PgRun.Undisturbed at hund
    dsimp only at hund
    cases hlook : s.calls.lookup id with
    | none => exact h
    | some c =>
      rw [hlook, Option.any_some] at hund
      exact h.perform hlook hund now
  | rollback id => exact h.finish id
  | createAuthSession session =>
    unfold pgStep
    dsimp only
    split
    · exact h
    · exact h.opens _ (fun t ht => (SessionData.used_insertAuth ..).trans (if_neg ht)) rfl
  | storeVerifiedSession session =>
    unfold pgStep
    dsimp only
    split
    · exact h
    · exact h.opens _ (fun t ht => (SessionData.used_insertVerified ..).trans (if_neg ht)) rfl
  | deleteAuthSessions retention now =>
    unfold pgStep
    dsimp only
    split
    · exact h
    · exact h.deletes (fun t b => SessionData.used_filterAuth _) fun r e hrow => .inr hrow
  | deleteVerifiedSessions retention now =>
    unfold pgStep
    dsimp only
    split
    · exact h
    · exact h.deletes (fun t b => SessionData.used_filterVerified _) fun r e hrow => .inr hrow
  | deleteReplayIDs retention now =>
    unfold pgStep
    dsimp only
    split
    · exact h
    · -- a mark is removed when its time is past
      refine (h.tick now).deletes (fun t b hb => ?_) fun r e hrow => ?_
      · cases t <;> exact hb
      · rcases @SessionData.replay_cleaned _ retention now _ _ hrow with hle | hkept
        · exact .inl (le_trans hle (le_max_right _ _))
        · exact .inr hkept

theorem pgRun_sound_new (start : Instant) : PgRun.Sound { ledger := { clock := start } } where
  valid := Ledger.valid_new start
  covers := Ledger.covers_new start _
  good := by
    intro id c hlook
    rw [AList.lookup_empty] at hlook
    cases hlook
  apart := by
    intro id c id' c' hlook
    rw [AList.lookup_empty] at hlook
    cases hlook

/-- **Every session is consumed at most once, and no replay id is accepted twice before its
expiry**: along every run of the store in a file, and along every run of the store over PostgreSQL
in which no call reads a record that another call in flight has read.  The file store decides and
records in one step.  Over PostgreSQL the statements of two calls may alternate, and what is kept
is that no two calls in flight have read one record. -/
theorem sessions_single_use (start : Instant) :
    (∀ acts, (exec fileStep { ledger := { clock := start } } acts).ledger.SingleUse) ∧
      ∀ acts, Along pgStep PgRun.Undisturbed { ledger := { clock := start } } acts →
        (exec pgStep { ledger := { clock := start } } acts).ledger.SingleUse := by
  refine ⟨fun acts => (file_sound start acts).valid.toSingleUse, fun acts hund => ?_⟩
  exact (hund.invariant (I := PgRun.Sound) (fun _ _ hs => pgStep_sound hs)
    (pgRun_sound_new start)).valid.toSingleUse

/-- Two callbacks of one state: both read the session, and then both mark it. -/
def callbackRace : List PgAct :=
  [.createAuthSession { offerID := "o", did := "d", state := "s", expiresAt := 9 },
    .consumeAuthState 1 "s" "" 0, .consumeAuthState 2 "s" "" 0,
    .perform 1 0, .perform 2 0, .perform 1 0, .perform 2 0,
    .perform 1 0, .perform 1 0, .perform 1 0, .perform 2 0, .perform 2 0, .perform 2 0]

/-- A callback of the state that begins after the first one has committed is refused. -/
def callbackTwice : List PgAct :=
  [.createAuthSession { offerID := "o", did := "d", state := "s", expiresAt := 9 },
    .consumeAuthState 1 "s" "" 0, .perform 1 0, .perform 1 0, .perform 1 0, .perform 1 0,
    .perform 1 0, .consumeAuthState 2 "s" "" 0, .perform 2 0, .perform 2 0]

theorem sessions_single_use_twice :
    Along pgStep PgRun.Undisturbed { ledger := { clock := 0 } } callbackTwice ∧
      (exec pgStep { ledger := { clock := 0 } } callbackTwice).ledger.consumed =
        [(.state "s", 1)] ∧
      (exec pgStep { ledger := { clock := 0 } } callbackTwice).ledger.SingleUse :=
  ⟨by decide +kernel, by decide +kernel,
    (sessions_single_use 0).2 callbackTwice (by decide +kernel)⟩

theorem callbacks_consume_twice :
    (exec pgStep { ledger := { clock := 0 } } callbackRace).ledger.consumed =
        [(.state "s", 1), (.state "s", 1)] ∧
      ¬ ∀ start, (∀ acts, (exec fileStep { ledger := { clock := start } } acts).ledger.SingleUse) ∧
        ∀ acts, (exec pgStep { ledger := { clock := start } } acts).ledger.SingleUse := by
  have hrace : (exec pgStep { ledger := { clock := 0 } } callbackRace).ledger.consumed =
      [(.state "s", 1), (.state "s", 1)] := by
    decide +kernel
  refine ⟨hrace, fun h => ?_⟩
  have hnodup := ((h 0).2 callbackRace).consumed
  rw [hrace] at hnodup
  exact absurd hnodup (by decide)

end Ansible.Vc
