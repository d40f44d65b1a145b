import Ansible.Issuer.ProviderSession
import Mathlib.Data.Int.Order.Basic

/-!
# A ledger of consumed sessions

What a run of a store of sessions has granted: which sessions were opened, which of
them were consumed, and which replay ids were accepted.  A state or an offer may be
opened anew, so a session is known by its ticket and by how often that was opened.

## Main definitions

* `Ledger` — what was opened, consumed and accepted.
* `Ledger.Covers` — the maps of a store remember what the ledger grants.

## Main results

* `Ledger.Covers.opened`, `Ledger.Covers.consumed`, `Ledger.Covers.accepted` — what
  becomes of the memory of a store when the ledger grows.
-/

namespace Ansible.Vc

/-- What a session is consumed by: its state, or its offer once it is verified. -/
inductive Ticket where
  | state (state : String)
  | offer (offerID : String)
  deriving DecidableEq, Repr

/-- Whether the session of a ticket is consumed, none when there is no session. -/
def SessionData.used (d : SessionData) : Ticket → Option Bool
  | .state state => (d.authSessions.lookup state).map (·.consumed)
  | .offer offerID => (d.verifiedSessions.lookup offerID).map (·.consumed)

/-- The maps with a replay id until an expiry; the empty id is not one. -/
def SessionData.markReplay (d : SessionData) (replayID : String) (expiresAt : Instant) :
    SessionData :=
  if replayID = "" then d else { d with replayIDs := d.replayIDs.insert replayID expiresAt }

/-- A replay id that was accepted until an expiry, when the clocks had shown `clock`. -/
structure Acceptance where
  replayID : String
  expiresAt : Instant
  clock : Instant
  deriving DecidableEq, Repr

/-- What the run has granted, the newest first.  No code reads it. -/
structure Ledger where
  /-- How often the session of a ticket was opened. -/
  opened : Ticket → ℕ := fun _ => 0
  /-- The session that was consumed: its ticket, and the number of its opening. -/
  consumed : List (Ticket × ℕ) := []
  accepted : List Acceptance := []
  /-- The latest instant that an operation has read. -/
  clock : Instant

namespace Ledger

def tick (l : Ledger) (now : Instant) : Ledger := { l with clock := max l.clock now }

def openTicket (l : Ledger) (t : Ticket) : Ledger :=
  { l with opened := fun t' => if t' = t then l.opened t + 1 else l.opened t' }

def consume (l : Ledger) (t : Ticket) (opening : ℕ) : Ledger :=
  { l with consumed := (t, opening) :: l.consumed }

def accept (l : Ledger) (replayID : String) (expiresAt : Instant) : Ledger :=
  { l with accepted := ⟨replayID, expiresAt, l.clock⟩ :: l.accepted }

/-- The empty id is not a replay id. -/
def acceptReplay (l : Ledger) (replayID : String) (expiresAt : Instant) : Ledger :=
  if replayID = "" then l else l.accept replayID expiresAt

/-- Every session was consumed at most once, and no replay id was accepted twice before
its expiry. -/
structure SingleUse (l : Ledger) : Prop where
  consumed : l.consumed.Nodup
  accepted : l.accepted.Pairwise fun later earlier =>
    later.replayID = earlier.replayID → earlier.expiresAt ≤ later.clock

/-- The ledger is in order: sessions were opened before they were consumed. -/
structure Valid (l : Ledger) : Prop extends SingleUse l where
  known : ∀ t n, (t, n) ∈ l.consumed → n ≤ l.opened t

/-- The maps remember the current session of a ticket as consumed, or have dropped it, and
a replay id until its expiry. -/
structure Covers (l : Ledger) (d : SessionData) : Prop where
  tickets : ∀ t, (t, l.opened t) ∈ l.consumed → d.used t ≠ some false
  replays : ∀ a ∈ l.accepted, a.expiresAt ≤ l.clock ∨ d.replayIDs.lookup a.replayID
    = some a.expiresAt

/-- No acceptance of the id is still alive. -/
def Expired (l : Ledger) (replayID : String) : Prop :=
  ∀ a ∈ l.accepted, a.replayID = replayID → a.expiresAt ≤ l.clock

variable {l : Ledger} {d : SessionData}

theorem valid_new (start : Instant) : Valid { clock := start } where
  consumed := List.nodup_nil
  accepted := .nil
  known := by
    intro t n h
    cases h

theorem covers_new (start : Instant) (d : SessionData) : Covers { clock := start } d where
  tickets := by
    intro t h
    cases h
  replays := by
    intro a h
    cases h

/-! ### Time passes -/

theorem Valid.tick (h : l.Valid) (now : Instant) : (l.tick now).Valid :=
  ⟨⟨h.consumed, h.accepted⟩, h.known⟩

theorem Covers.tick (h : l.Covers d) (now : Instant) : (l.tick now).Covers d where
  tickets := h.tickets
  replays := by
    intro a ha
    rcases h.replays a ha with hle | hrow
    · exact .inl (le_trans hle (le_max_left _ _))
    · exact .inr hrow

theorem Expired.tick {r : String} (h : l.Expired r) (now : Instant) : (l.tick now).Expired r := by
  intro a ha hr
  exact le_trans (h a ha hr) (le_max_left _ _)

/-- What a store has lost that was expired does not matter. -/
theorem Covers.forget (h : l.Covers d) {d' : SessionData}
    (hused : ∀ t, d'.used t = some false → d.used t = some false)
    (hreplays : ∀ r e, d.replayIDs.lookup r = some e →
      e ≤ l.clock ∨ d'.replayIDs.lookup r = some e) : l.Covers d' where
  tickets := by
    intro t ht hfree
    exact h.tickets t ht (hused t hfree)
  replays := by
    intro a ha
    rcases h.replays a ha with hle | hrow
    · exact .inl hle
    · exact hreplays _ _ hrow

/-! ### Sessions are opened -/

theorem opened_openTicket (t t' : Ticket) :
    (l.openTicket t).opened t' = if t' = t then l.opened t + 1 else l.opened t' := rfl

theorem le_opened (t t' : Ticket) : l.opened t' ≤ (l.openTicket t).opened t' := by
  rw [opened_openTicket]
  split
  · rename_i h
    rw [h]
    omega
  · exact le_refl _

theorem Valid.openTicket (h : l.Valid) (t : Ticket) : (l.openTicket t).Valid :=
  ⟨⟨h.consumed, h.accepted⟩, fun t' n hmem => le_trans (h.known t' n hmem) (le_opened t t')⟩

/-- A session that is opened anew was not consumed; the others are as before. -/
theorem Covers.openTicket (hv : l.Valid) (h : l.Covers d) {d' : SessionData} (t : Ticket)
    (hused : ∀ t', t' ≠ t → d'.used t' = d.used t') (hreplays : d'.replayIDs = d.replayIDs) :
    (l.openTicket t).Covers d' where
  tickets := by
    intro t' hmem
    rw [opened_openTicket] at hmem
    split at hmem
    · have := hv.known _ _ hmem
      rename_i ht
      rw [ht] at this
      omega
    · rename_i ht
      rw [hused t' ht]
      exact h.tickets t' hmem
  replays := by
    intro a ha
    rw [hreplays]
    exact h.replays a ha

/-! ### Sessions are consumed -/

theorem Valid.consume (h : l.Valid) {t : Ticket} {n : ℕ} (hnew : (t, n) ∉ l.consumed)
    (hle : n ≤ l.opened t) : (l.consume t n).Valid where
  consumed := List.nodup_cons.2 ⟨hnew, h.consumed⟩
  accepted := h.accepted
  known := by
    intro t' n' hmem
    rcases List.mem_cons.1 hmem with heq | hmem
    · cases heq
      exact hle
    · exact h.known t' n' hmem

theorem Covers.consume (h : l.Covers d) {t : Ticket} {n : ℕ}
    (hused : n = l.opened t → d.used t ≠ some false) : (l.consume t n).Covers d where
  tickets := by
    intro t' hmem
    rcases List.mem_cons.1 hmem with heq | hmem
    · obtain ⟨rfl, hn⟩ := Prod.mk.inj heq
      exact hused hn.symm
    · exact h.tickets t' hmem
  replays := h.replays

/-! ### Replay ids are accepted -/

theorem Valid.acceptReplay (h : l.Valid) {r : String} (hexp : r ≠ "" → l.Expired r)
    (e : Instant) : (l.acceptReplay r e).Valid := by
  unfold Ledger.acceptReplay
  split
  · exact h
  · rename_i hr
    refine ⟨⟨h.consumed, List.pairwise_cons.2 ⟨?_, h.accepted⟩⟩, h.known⟩
    intro a ha hsame
    exact hexp hr a ha hsame.symm

/-- The id that was accepted is remembered, and no other acceptance of it is alive. -/
theorem Covers.acceptReplay (h : l.Covers d) {r : String} (hexp : r ≠ "" → l.Expired r)
    (e : Instant) : (l.acceptReplay r e).Covers (d.markReplay r e) := by
  by_cases hr : r = ""
  · rw [Ledger.acceptReplay, SessionData.markReplay, if_pos hr, if_pos hr]
    exact h
  · rw [Ledger.acceptReplay, SessionData.markReplay, if_neg hr, if_neg hr]
    refine ⟨h.tickets, ?_⟩
    intro a ha
    rw [Assoc.lookup_insert']
    rcases List.mem_cons.1 ha with rfl | ha
    · exact .inr (if_pos rfl)
    · by_cases hsame : a.replayID = r
      · exact .inl (hexp hr a ha hsame)
      · rw [if_neg hsame]
        exact h.replays a ha

@[simp] theorem consumed_acceptReplay (r : String) (e : Instant) :
    (l.acceptReplay r e).consumed = l.consumed := by
  unfold Ledger.acceptReplay
  split <;> rfl

@[simp] theorem opened_acceptReplay (r : String) (e : Instant) :
    (l.acceptReplay r e).opened = l.opened := by
  unfold Ledger.acceptReplay
  split <;> rfl

@[simp] theorem clock_acceptReplay (r : String) (e : Instant) :
    (l.acceptReplay r e).clock = l.clock := by
  unfold Ledger.acceptReplay
  split <;> rfl

theorem Expired.acceptReplay {r r' : String} (h : l.Expired r') (hne : r ≠ "" → r' ≠ r)
    (e : Instant) : (l.acceptReplay r e).Expired r' := by
  unfold Ledger.acceptReplay
  split
  · exact h
  · rename_i hr
    intro a ha hsame
    rcases List.mem_cons.1 ha with rfl | ha
    · exact absurd hsame.symm (hne hr)
    · exact h a ha hsame

theorem Covers.markReplay (h : l.Covers d) {r : String} (hexp : r ≠ "" → l.Expired r)
    (e : Instant) : l.Covers (d.markReplay r e) := by
  unfold SessionData.markReplay
  split
  · exact h
  · rename_i hr
    refine ⟨h.tickets, ?_⟩
    intro a ha
    rw [Assoc.lookup_insert']
    by_cases hsame : a.replayID = r
    · exact .inl (hexp hr a ha hsame)
    · rw [if_neg hsame]
      exact h.replays a ha

theorem le_of_not_lt {e now clock : ℤ} (h : ¬ now < e) (hnow : now ≤ clock) : e ≤ clock := by
  omega

theorem Covers.expired (h : l.Covers d) {r : String} {now : Instant} (hnow : now ≤ l.clock)
    (hfree : (d.replayIDs.lookup r).any (decide <| now < ·) = false) : l.Expired r := by
  intro a ha hr
  rcases h.replays a ha with hle | hrow
  · exact hle
  · rw [hr] at hrow
    rw [hrow, Option.any_some] at hfree
    exact le_of_not_lt (of_decide_eq_false hfree) hnow

end Ledger

end Ansible.Vc
