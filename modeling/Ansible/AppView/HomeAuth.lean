import Ansible.AppView.Folder
import Ansible.Lib.Checks

/-!
# Requests for the home feed

A reader may see no home feed but its own, and proves control of its DID by a signature over a
canonical payload.  The projection has no resolver: a key is bound to a DID when any row of the DID
carries it, and the signature is tried as an Ed25519 one.

## Main definitions

* `HomeAuth.authorize` — the decision, as the code makes it.
* `HomeAuth.CurrentKey`, `HomeAuth.RetiredKey` — the key that the projection has seen last, and
  those that it has seen before.

## Main results

* `HomeAuth.authorize_iff_entitled_iff` — **the code decides as it should except for signatures with
  a retired Ed25519 key, which it accepts, and with a current P-256 key, which it refuses.**
-/

namespace Ansible

namespace AppView

namespace HomeAuth

inductive AuthError
  | unauthorized
  | unknownReader
  /-- A timestamp that is neither absent nor a text nor an integer. -/
  | raised
  deriving DecidableEq, Repr

def path : String := "/api/v1/home"

def maxSkewSeconds : ℕ := 300

def parseTs : Json → Except AuthError ℤ
  | .null => .error .unauthorized
  | .int n => .ok n
  | .str s => match parseInteger s with
    | some n => .ok n
    | none => .error .unauthorized
  | _ => .error .raised

def fresh (now ts : ℤ) : Bool := decide ((now - ts).natAbs ≤ maxSkewSeconds)

/-- The text that a caller signs. -/
def challenge (did : String) (ts : ℤ) : Text :=
  canonicalJson (.obj [("did", .str did), ("path", .str path), ("ts", .int ts)])

/-- `key_bound?` -/
def keyBound (t : FeedTable) (did pubkey : String) : Bool :=
  t.rows.any fun r => r.authorDid == did && r.publicKeyHex == some pubkey

/-- Whether a request may read the home feed of `reader`; `now` is in seconds, the headers are an
object with lower-case names. -/
def authorize (P : Platform) (now : ℤ) (t : FeedTable) (headers : Json) (reader : String) :
    Except AuthError Unit := do
  ensure headers.isObj .unauthorized
  ensure ((headers.fetch "x-reader-did").eqv (.str reader)) .unauthorized
  let ts ← parseTs (headers.fetch "x-reader-timestamp")
  ensure (fresh now ts) .unauthorized
  match headers.fetch "x-reader-public-key", headers.fetch "x-reader-signature" with
  | .str pubkey, .str sig =>
    ensure (Ansible.SigVerifier.verifyEd25519 P pubkey (challenge reader ts) sig) .unauthorized
    ensure (keyBound t reader pubkey) .unknownReader
  | _, _ => .error .unauthorized

/-! ### What is asked of the decision -/

/-- A fresh request of the reader, with its timestamp, its key and its signature. -/
structure SignedRequest (now : ℤ) (headers : Json) (reader : String) (ts : ℤ)
    (pubkey sig : String) : Prop where
  isObj : headers.isObj = true
  did : headers.fetch "x-reader-did" = .str reader
  timestamp : parseTs (headers.fetch "x-reader-timestamp") = .ok ts
  recent : fresh now ts = true
  keyed : headers.fetch "x-reader-public-key" = .str pubkey
  signed : headers.fetch "x-reader-signature" = .str sig

/-- The last row of the DID that names a key names this one. -/
def CurrentKey (t : FeedTable) (did key : String) : Prop :=
  ∃ r ∈ t.rows, r.authorDid = did ∧ r.publicKeyHex = some key ∧
    ∀ r' ∈ t.rows, r'.authorDid = did → r'.publicKeyHex.isSome → r'.logId ≤ r.logId

instance (t : FeedTable) (did key : String) : Decidable (CurrentKey t did key) :=
  inferInstanceAs (Decidable (∃ r ∈ t.rows, r.authorDid = did ∧ r.publicKeyHex = some key ∧
    ∀ r' ∈ t.rows, r'.authorDid = did → r'.publicKeyHex.isSome → r'.logId ≤ r.logId))

/-- A row of the DID names the key, but not the last one. -/
def RetiredKey (t : FeedTable) (did key : String) : Prop :=
  (∃ r ∈ t.rows, r.authorDid = did ∧ r.publicKeyHex = some key) ∧ ¬ CurrentKey t did key

/-- The request is signed with the current key of the reader, whichever its algorithm. -/
def Entitled (P : Platform) (now : ℤ) (t : FeedTable) (headers : Json) (reader : String) : Prop :=
  ∃ ts pubkey sig, SignedRequest now headers reader ts pubkey sig ∧ CurrentKey t reader pubkey ∧
    (SigVerifier.verifyIdentity P "ed25519" pubkey (challenge reader ts) sig = true ∨
      SigVerifier.verifyIdentity P "p256-sha256" pubkey (challenge reader ts) sig = true)

/-! ### The decision -/

theorem keyBound_iff {t : FeedTable} {did pubkey : String} : keyBound t did pubkey = true ↔
    ∃ r ∈ t.rows, r.authorDid = did ∧ r.publicKeyHex = some pubkey := by
  simp only [keyBound, List.any_eq_true, Bool.and_eq_true, beq_iff_eq]

theorem keyBound_iff_current_or_retired {t : FeedTable} {did pubkey : String} :
    keyBound t did pubkey = true ↔ CurrentKey t did pubkey ∨ RetiredKey t did pubkey := by
  rw [keyBound_iff]
  constructor
  · intro h
    by_cases hcurrent : CurrentKey t did pubkey
    · exact .inl hcurrent
    · exact .inr ⟨h, hcurrent⟩
  · rintro (⟨r, hr, hdid, hkey, -⟩ | ⟨h, -⟩)
    · exact ⟨r, hr, hdid, hkey⟩
    · exact h

/-- A request has one timestamp, one key and one signature. -/
theorem SignedRequest.unique {now : ℤ} {headers : Json} {reader : String} {ts ts' : ℤ}
    {pubkey pubkey' sig sig' : String} (h : SignedRequest now headers reader ts pubkey sig)
    (h' : SignedRequest now headers reader ts' pubkey' sig') :
    ts = ts' ∧ pubkey = pubkey' ∧ sig = sig' := by
  refine ⟨?_, ?_, ?_⟩
  · exact Except.ok.inj (h.timestamp.symm.trans h'.timestamp)
  · exact Json.str.inj (h.keyed.symm.trans h'.keyed)
  · exact Json.str.inj (h.signed.symm.trans h'.signed)

/-- **When the code lets a request pass**: a signature that verifies as an Ed25519 one, with a key
that any row of the reader names. -/
theorem authorize_eq_ok_iff (P : Platform) (now : ℤ) (t : FeedTable) (headers : Json)
    (reader : String) : authorize P now t headers reader = .ok () ↔
      ∃ ts pubkey sig, SignedRequest now headers reader ts pubkey sig ∧
        Ansible.SigVerifier.verifyEd25519 P pubkey (challenge reader ts) sig = true ∧
        keyBound t reader pubkey = true := by
  unfold authorize
  constructor
  · intro h
    obtain ⟨_, hobj, h⟩ := bind_eq_ok.1 h
    obtain ⟨_, hdid, h⟩ := bind_eq_ok.1 h
    obtain ⟨ts, hts, h⟩ := bind_eq_ok.1 h
    obtain ⟨_, hfresh, h⟩ := bind_eq_ok.1 h
    split at h
    · next pubkey sig hpubkey hsig =>
      obtain ⟨_, hverified, hbound⟩ := bind_eq_ok.1 h
      exact ⟨ts, pubkey, sig, ⟨ensure_eq_ok.1 hobj, Json.eqv_str_right.1 (ensure_eq_ok.1 hdid), hts,
        ensure_eq_ok.1 hfresh, hpubkey, hsig⟩, ensure_eq_ok.1 hverified, ensure_eq_ok.1 hbound⟩
    · cases h
  · rintro ⟨ts, pubkey, sig, h, hverified, hbound⟩
    rw [h.isObj, h.did, h.timestamp, h.keyed, h.signed, Json.eqv_str_right.2 rfl]
    refine bind_eq_ok.2 ⟨(), rfl, bind_eq_ok.2 ⟨(), rfl, bind_eq_ok.2 ⟨ts, rfl, ?_⟩⟩⟩
    rw [h.recent]
    refine bind_eq_ok.2 ⟨(), rfl, ?_⟩
    dsimp only
    rw [hverified, hbound]
    rfl

theorem not_verifyP256_of_verifyEd25519 {P : Platform} {pubkey sig : String} {message : Text}
    (h : Ansible.SigVerifier.verifyEd25519 P pubkey message sig = true) :
    SigVerifier.verifyP256 P pubkey message sig = false := by
  unfold Ansible.SigVerifier.verifyEd25519 at h
  split at h
  · next key c hkey hc =>
    unfold Ansible.SigVerifier.decodeHex at hkey
    split at hkey
    · next hlen =>
      unfold SigVerifier.verifyP256 Ansible.SigVerifier.decodeHex
      rw [if_neg (by omega)]
    · cases hkey
  · cases h

/-- **The code decides as it should except for two kinds of requests**: those signed with a retired
Ed25519 key, which it accepts, and those signed with a current P-256 key, which it refuses. -/
theorem authorize_iff_entitled_iff (P : Platform) (now : ℤ) (t : FeedTable) (headers : Json)
    (reader : String) :
    (authorize P now t headers reader = .ok () ↔ Entitled P now t headers reader) ↔
      ∀ ts pubkey sig, SignedRequest now headers reader ts pubkey sig →
        ¬ (RetiredKey t reader pubkey ∧
            Ansible.SigVerifier.verifyEd25519 P pubkey (challenge reader ts) sig = true) ∧
          ¬ (CurrentKey t reader pubkey ∧
            SigVerifier.verifyP256 P pubkey (challenge reader ts) sig = true) := by
  rw [authorize_eq_ok_iff]
  constructor
  · intro h ts pubkey sig hrequest
    constructor
    · rintro ⟨hretired, hverified⟩
      obtain ⟨ts', pubkey', sig', hrequest', hcurrent, -⟩ := h.1 ⟨ts, pubkey, sig, hrequest,
        hverified, keyBound_iff_current_or_retired.2 (.inr hretired)⟩
      obtain ⟨-, rfl, -⟩ := hrequest.unique hrequest'
      exact hretired.2 hcurrent
    · rintro ⟨hcurrent, hverified⟩
      obtain ⟨ts', pubkey', sig', hrequest', hverified', -⟩ :=
        h.2 ⟨ts, pubkey, sig, hrequest, hcurrent, .inr hverified⟩
      obtain ⟨rfl, rfl, rfl⟩ := hrequest.unique hrequest'
      rw [not_verifyP256_of_verifyEd25519 hverified'] at hverified
      cases hverified
  · intro h
    constructor
    · rintro ⟨ts, pubkey, sig, hrequest, hverified, hbound⟩
      rcases keyBound_iff_current_or_retired.1 hbound with hcurrent | hretired
      · exact ⟨ts, pubkey, sig, hrequest, hcurrent, .inl hverified⟩
      · exact absurd ⟨hretired, hverified⟩ (h ts pubkey sig hrequest).1
    · rintro ⟨ts, pubkey, sig, hrequest, hcurrent, hverified | hverified⟩
      · exact ⟨ts, pubkey, sig, hrequest, hverified,
          keyBound_iff_current_or_retired.2 (.inl hcurrent)⟩
      · exact absurd ⟨hcurrent, hverified⟩ (h ts pubkey sig hrequest).2

/-! ### A key that opens the feed after it was rotated away -/

def toyEdKey (n : UInt8) : String := String.ofList (encode16 (List.replicate 32 n))

def toyEdSign (n : UInt8) (message : Text) : String :=
  String.ofList (encode16 (List.replicate 32 n ++ toyHash message.utf8))

/-- A murmur that the DID signs with a key. -/
def toyEdOp (logId : ℤ) (opId : String) (n : UInt8) : Op :=
  let op := { toyUnsigned logId opId "insert" with
    publicKeyHex := some (toyEdKey n), signingAlgorithm := some "ed25519" }
  { op with signature := some (toyEdSign n (signingPayload op)) }

/-- The headers of a request at the first second, signed with a key. -/
def toyHomeHeaders (n : UInt8) : Json :=
  .obj [("x-reader-did", .str "did:elix:a"), ("x-reader-public-key", .str (toyEdKey n)),
    ("x-reader-timestamp", .str "1"),
    ("x-reader-signature", .str (toyEdSign n (challenge "did:elix:a" 1)))]

/-- **A key that was rotated away opens the home feed**: the DID has signed a murmur with the first
key and a later one with the second. -/
theorem retired_key_authorized : ∃ s,
    foldPages .toy [[toyEdOp 1 "o-1" 1, toyEdOp 2 "o-2" 2]] .empty = some s ∧
      ¬ (authorize .toy 1 s.feedItems (toyHomeHeaders 1) "did:elix:a" = .ok () ↔
        Entitled .toy 1 s.feedItems (toyHomeHeaders 1) "did:elix:a") := by
  have hrun : ∃ s ∈ foldPages .toy [[toyEdOp 1 "o-1" 1, toyEdOp 2 "o-2" 2]] .empty,
      authorize .toy 1 s.feedItems (toyHomeHeaders 1) "did:elix:a" = .ok () ∧
        ¬ CurrentKey s.feedItems "did:elix:a" (toyEdKey 1) := by decide +kernel
  obtain ⟨s, hs, hok, hnot⟩ := hrun
  refine ⟨s, hs, fun h => hnot ?_⟩
  obtain ⟨ts, pubkey, sig, hrequest, hcurrent, -⟩ := h.1 hok
  have hpubkey : toyEdKey 1 = pubkey := Json.str.inj hrequest.keyed
  exact hpubkey ▸ hcurrent

end HomeAuth

end AppView

end Ansible
