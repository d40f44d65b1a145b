import Ansible.Relay.Moderation
import Ansible.Relay.Reputation

/-!
# The state behind the endpoints

Requests are answered from the identities, the forum host and the op log.

## Main definitions

* `Deployment` — the three of them.
* `Conn` — what the connection of a request proves.
* `PostingGate.lookup` — the board that an identifier names.
-/

namespace Ansible

/-! ### The state behind the endpoints -/

/-- The identities, the forum host, and the op log in the order of its ids. -/
structure Deployment where
  relay : Relay
  host : ForumHost
  ops : List OpStore.Op

namespace Deployment

def empty : Deployment := ⟨Relay.empty, ForumHost.empty, []⟩

end Deployment

inductive CapabilityError
  | boardCapabilityRequired
  | invalidBoardCapability
  | capabilityExpired
  | boardCapabilityReplay
  | credentialNotAuthorized
  deriving DecidableEq, Repr

/-- What the connection of a request proves: a board capability for a scope, and a session that
may sync for a DID. -/
structure Conn where
  boardCapability : ℕ → String → Option CapabilityError
  syncCapability : String → Bool

/-- A connection without capabilities, on a relay that does not ask for a sync session. -/
def Conn.plain : Conn where
  boardCapability _ _ := some .boardCapabilityRequired
  syncCapability _ := true

namespace PostingGate

/-- `DidAccountCache.reputation_tier` -/
def reputationTier (did : String) (s : Relay) : String × Relay :=
  match DidAccountCache.get did s with
  | (some entry, s) => (entry.reputationTier, s)
  | (none, s) => ("basic", s)

/-- `get_board`, in the state behind the endpoints -/
def lookup {ε : Type} (C : HostConfig) (now : Time) (id : Json) :
    Checked Deployment ε (Option ForumHostBoard) := fun s =>
  let (board, host) := ForumHost.getBoard C now id s.host
  (.ok board, { s with host })

theorem lookup_eq_ok {ε : Type} {C : HostConfig} {now : Time} {id : Json} {s t : Deployment}
    {board : Option ForumHostBoard} :
    lookup (ε := ε) C now id s = (.ok board, t) ↔
      (ForumHost.getBoard C now id s.host).1 = board ∧
        { s with host := (ForumHost.getBoard C now id s.host).2 } = t := by
  simp [lookup]

end PostingGate

end Ansible
