import Ansible.Lib.Run
import Ansible.Lib.Slots
import Ansible.Relay.MessengerStore

/-!
# One-time pre-keys and the bundles they go out with

A bundle is put together in a transaction: it reads the devices, and takes for each the first
pre-key that is neither reserved nor locked by another transaction.  Devices and pre-keys are
published in between.

## Main definitions

* `Reservation` — a transaction of `reserve_bundle`; the bundles are the committed ones.
* `PreKeySystem`, `preKeyStep` — the store, the transactions, and what was published.
* `PreKeyLaw` — a pre-key is in one bundle at most, is then no longer available, and was published
  under the identity key of its bundle.

## Main results

* `pre_key_law` — **in every run that keeps generations apart the law holds.**
-/

namespace Ansible

open MessengerStore

/-! ### The system -/

inductive ReservationStatus
  | running
  | committed
  | aborted
  deriving DecidableEq, Repr

/-- A transaction that puts a bundle together. -/
structure Reservation where
  subjectDid : String
  /-- The devices that it has read and not yet come to. -/
  awaiting : List MessengerDevice
  /-- The devices with the pre-keys taken for them. -/
  taken : List (MessengerDevice × Option PreKey)
  status : ReservationStatus

def Reservation.preKeys (r : Reservation) : List PreKey := r.taken.filterMap (·.2)

def Reservation.keys (r : Reservation) : List (String × String × ℤ) := r.preKeys.map PreKey.key

/-- A pre-key as it was inserted, with the identity key that its device had. -/
structure Published where
  preKey : PreKey
  identityKey : String

structure PreKeySystem where
  store : MessengerStore
  reservations : List Reservation
  published : List Published

def PreKeySystem.empty : PreKeySystem := ⟨.empty, [], []⟩

inductive PreKeyStep
  | publishDevice (attrs : Json)
  | publishPreKeys (attrs : Json)
  | beginReserve (subjectDid : String)
  | reserveNext (n : ℕ) (now : Time)
  | commit (n : ℕ)
  | abort (n : ℕ)

/-- The rows locked by transactions that are under way. -/
def locked (s : PreKeySystem) (p : PreKey) : Bool :=
  s.reservations.any fun r => r.status == .running && r.keys.contains p.key

def identityKeyOf (device : String × String) (s : MessengerStore) : String :=
  match s.devices.find fun d => d.key == device with
  | some d => d.messengerIdentityKey
  | none => ""

def insertedPreKeys (s t : MessengerStore) : List PreKey :=
  t.preKeys.rows.drop s.preKeys.rows.length

/-- The transaction comes to the next device. -/
def Reservation.next (s : PreKeySystem) (now : Time) (r : Reservation) : Reservation :=
  match r.awaiting with
  | [] => r
  | d :: rest =>
    let preKey := (nextPreKey d.key (locked s) s.store).map fun p =>
      { p with reservedAt := some now }
    { r with awaiting := rest, taken := r.taken ++ [(d, preKey)] }

def preKeyStep (s : PreKeySystem) : PreKeyStep → PreKeySystem
  | .publishDevice attrs => { s with store := (publishDevice attrs s.store).2 }
  | .publishPreKeys attrs =>
    let t := (publishPreKeys attrs s.store).2
    { s with
      store := t
      published := s.published ++ (insertedPreKeys s.store t).map fun p =>
        ⟨p, identityKeyOf p.device s.store⟩ }
  | .beginReserve did =>
    { s with reservations := s.reservations ++ [⟨did, devicesOf did s.store, [], .running⟩] }
  | .reserveNext n now =>
    match s.reservations[n]? with
    | none => s
    | some r =>
      if r.status = .running then
        { s with reservations := s.reservations.set n (r.next s now) }
      else s
  | .commit n =>
    match s.reservations[n]? with
    | none => s
    | some r =>
      if r.status = .running ∧ r.awaiting.isEmpty then
        { s with
          reservations := s.reservations.set n { r with status := .committed }
          store := { s.store with preKeys := commitReserved r.preKeys s.store.preKeys } }
      else s
  | .abort n =>
    match s.reservations[n]? with
    | none => s
    | some r =>
      if r.status = .running then
        { s with reservations := s.reservations.set n { r with status := .aborted } }
      else s

/-! ### The law -/

/-- The pre-key was published when its device had the identity key. -/
def PublishedUnder (s : PreKeySystem) (p : PreKey) (identityKey : String) : Prop :=
  ∃ q ∈ s.published, q.preKey.key = p.key ∧ q.preKey.preKey = p.preKey ∧
    q.identityKey = identityKey

structure PreKeyLaw (s : PreKeySystem) : Prop where
  /-- A pre-key is in one bundle at most, -/
  oneBundle : ∀ (i j : ℕ) (r r' : Reservation) (k : String × String × ℤ),
    s.reservations[i]? = some r → s.reservations[j]? = some r' → r.status = .committed →
    r'.status = .committed → k ∈ r.keys → k ∈ r'.keys → i = j
  /-- and there once. -/
  once : ∀ r ∈ s.reservations, r.status = .committed → r.keys.Nodup
  unavailable : ∀ r ∈ s.reservations, r.status = .committed → ∀ p ∈ s.store.preKeys.rows,
    p.key ∈ r.keys → p.reservedAt ≠ none
  generation : ∀ r ∈ s.reservations, r.status = .committed → ∀ d p, (d, some p) ∈ r.taken →
    p.device = d.key ∧ PublishedUnder s p d.messengerIdentityKey

/-- A device that changes its identity key has no pre-keys left, and no transaction that has read
it has yet to come to it. -/
def KeepsGeneration (s : PreKeySystem) (a : PreKeyStep) : Prop :=
  match a with
  | .publishDevice attrs => ∀ d ∈ (deviceOf attrs).toOption, ∀ d' ∈ s.store.devices.rows,
    d'.key = d.key → d'.messengerIdentityKey = d.messengerIdentityKey ∨
      (∀ p ∈ s.store.preKeys.rows, p.device = d.key → p.reservedAt ≠ none) ∧
      ∀ r ∈ s.reservations, r.status = .running → ∀ x ∈ r.awaiting, x.key ≠ d.key
  | _ => True

instance (s : PreKeySystem) : ∀ a, Decidable (KeepsGeneration s a)
  | .publishDevice attrs => inferInstanceAs (Decidable (∀ d ∈ (deviceOf attrs).toOption,
      ∀ d' ∈ s.store.devices.rows, d'.key = d.key →
        d'.messengerIdentityKey = d.messengerIdentityKey ∨
        (∀ p ∈ s.store.preKeys.rows, p.device = d.key → p.reservedAt ≠ none) ∧
        ∀ r ∈ s.reservations, r.status = .running → ∀ x ∈ r.awaiting, x.key ≠ d.key))
  | .publishPreKeys _ | .beginReserve _ | .reserveNext _ _ | .commit _ | .abort _ =>
    instDecidableTrue

/-! ### What the operations do -/

variable {d : MessengerDevice} {s t : PreKeySystem} {p : PreKey} {r : Reservation}

theorem mem_upsertDevice {t t' : DeviceTable} (h : upsertDevice d t = some t')
    {x : MessengerDevice} : x ∈ t'.rows ↔ x = d ∨ x ∈ t.rows ∧ x.key ≠ d.key := by
  unfold upsertDevice Table.upsert at h
  split at h
  · next hany =>
    obtain ⟨y, hy, hkey⟩ := List.any_eq_true.1 hany
    rw [Table.mem_update h]
    constructor
    · rintro ⟨r, hr, hrx⟩
      split at hrx
      · exact .inl hrx.symm
      · next hne =>
        obtain rfl := hrx
        exact .inr ⟨hr, fun heq => hne (beq_iff_eq.2 heq)⟩
    · rintro (rfl | ⟨hx, hne⟩)
      · exact ⟨y, hy, if_pos hkey⟩
      · exact ⟨x, hx, if_neg fun heq => hne (beq_iff_eq.1 heq)⟩
  · next hany =>
    rw [Table.mem_insert h]
    have hfree : ∀ x ∈ t.rows, x.key ≠ d.key := fun x hx heq =>
      hany (List.any_eq_true.2 ⟨x, hx, beq_iff_eq.2 heq⟩)
    constructor
    · rintro (hx | rfl)
      · exact .inr ⟨hx, hfree x hx⟩
      · exact .inl rfl
    · rintro (rfl | ⟨hx, -⟩)
      · exact .inr rfl
      · exact .inl hx

theorem publishDevice_cases (attrs : Json) (s : MessengerStore) :
    (publishDevice attrs s).2 = s ∨ ∃ d devices, deviceOf attrs = .ok d ∧
      upsertDevice d s.devices = some devices ∧ (publishDevice attrs s).2 = { s with devices } := by
  rw [publishDevice]
  cases hd : deviceOf attrs with
  | error e => exact .inl rfl
  | ok d =>
    dsimp only
    cases hdevices : upsertDevice d s.devices with
    | none => exact .inl rfl
    | some devices => exact .inr ⟨d, devices, rfl, hdevices, rfl⟩

theorem foldl_insertPreKey (rows : List PreKey) (t : PreKeyTable) :
    ∃ new, (rows.foldl insertPreKey t).rows = t.rows ++ new ∧ ∀ p ∈ new, p ∈ rows := by
  induction rows generalizing t with
  | nil => exact ⟨[], (List.append_nil _).symm, fun _ h => h⟩
  | cons p rows ih =>
    rw [List.foldl_cons, insertPreKey]
    cases h : t.insert p with
    | none =>
      obtain ⟨new, hnew, hmem⟩ := ih t
      exact ⟨new, hnew, fun q hq => List.mem_cons_of_mem _ (hmem q hq)⟩
    | some t' =>
      obtain ⟨new, hnew, hmem⟩ := ih t'
      refine ⟨p :: new, ?_, ?_⟩
      · rw [Option.getD_some, hnew, Table.rows_of_commit h, List.append_assoc,
          List.singleton_append]
      · intro q hq
        rcases List.mem_cons.1 hq with rfl | hq
        · exact List.mem_cons_self
        · exact List.mem_cons_of_mem _ (hmem q hq)

theorem preKeysOf_eq_ok {attrs : Json} {s : MessengerStore} {rows : List PreKey}
    (h : preKeysOf attrs s = .ok rows) : ∃ device, deviceExists device s = true ∧
      ∀ p ∈ rows, p.device = device ∧ p.reservedAt = none := by
  obtain ⟨did, -, h₁⟩ := bind_eq_ok.1 h
  obtain ⟨deviceId, -, h₂⟩ := bind_eq_ok.1 h₁
  obtain ⟨_, -, h₃⟩ := bind_eq_ok.1 h₂
  obtain ⟨_, hexists, h₄⟩ := bind_eq_ok.1 h₃
  obtain ⟨normalized, -, h₅⟩ := bind_eq_ok.1 h₄
  obtain ⟨_, -, h₆⟩ := bind_eq_ok.1 h₅
  cases h₆
  refine ⟨(did, deviceId), ensure_eq_ok.1 hexists, fun p hp => ?_⟩
  obtain ⟨k, -, rfl⟩ := List.mem_map.1 hp
  exact ⟨rfl, rfl⟩

/-- Published pre-keys are appended, available, and of a device that is there. -/
theorem publishPreKeys_cases (attrs : Json) (s : MessengerStore) :
    ∃ preKeys new, (publishPreKeys attrs s).2 = { s with preKeys } ∧
      preKeys.rows = s.preKeys.rows ++ new ∧
      ∀ p ∈ new, p.reservedAt = none ∧ deviceExists p.device s = true := by
  rw [publishPreKeys]
  cases h : preKeysOf attrs s with
  | error e => exact ⟨s.preKeys, [], rfl, (List.append_nil _).symm, fun _ h => nomatch h⟩
  | ok rows =>
    obtain ⟨device, hexists, hrows⟩ := preKeysOf_eq_ok h
    obtain ⟨new, hnew, hmem⟩ := foldl_insertPreKey rows s.preKeys
    refine ⟨_, new, rfl, hnew, fun p hp => ?_⟩
    obtain ⟨hdevice, hreserved⟩ := hrows p (hmem p hp)
    exact ⟨hreserved, hdevice ▸ hexists⟩

theorem nextPreKey_eq_some {device : String × String} {locked : PreKey → Bool} {s : MessengerStore}
    (h : nextPreKey device locked s = some p) :
    p ∈ s.preKeys.rows ∧ p.device = device ∧ p.reservedAt = none ∧ locked p = false := by
  have hmem := List.mem_of_mem_head? h
  rw [List.mem_insertionSort, List.mem_filter, Bool.and_eq_true, Bool.and_eq_true, beq_iff_eq,
    Option.isNone_iff_eq_none, Bool.not_eq_true'] at hmem
  exact ⟨hmem.1, hmem.2.1.1, hmem.2.1.2, hmem.2.2⟩

theorem mem_devicesOf {did : String} {s : MessengerStore} (h : d ∈ devicesOf did s) :
    d ∈ s.devices.rows := by
  rw [devicesOf, List.mem_insertionSort] at h
  exact List.mem_of_mem_filter h

/-! ### Reservations are exclusive -/

/-- Each pre-key is held by one transaction at most, and those that are handed out are
reserved. -/
structure PreKeysSpent (s : PreKeySystem) : Prop where
  exclusive : ∀ (i j : ℕ) (r r' : Reservation) (k : String × String × ℤ),
    s.reservations[i]? = some r → s.reservations[j]? = some r' → r.status ≠ .aborted →
    r'.status ≠ .aborted → k ∈ r.keys → k ∈ r'.keys → i = j
  once : ∀ r ∈ s.reservations, r.keys.Nodup
  marked : ∀ r ∈ s.reservations, ∀ p ∈ r.preKeys, p.reservedAt ≠ none
  kept : ∀ r ∈ s.reservations, ∀ k ∈ r.keys, ∃ p ∈ s.store.preKeys.rows, p.key = k
  unavailable : ∀ r ∈ s.reservations, r.status = .committed → ∀ p ∈ s.store.preKeys.rows,
    p.key ∈ r.keys → p.reservedAt ≠ none

/-- No transaction under way or committed has the key. -/
def Fresh (s : PreKeySystem) (k : String × String × ℤ) : Prop :=
  ∀ r ∈ s.reservations, r.status ≠ .aborted → k ∉ r.keys

/-- The table grows by rows with new keys, and rows of old keys stay reserved. -/
structure PreKeysGrow (s t : PreKeyTable) : Prop where
  kept : ∀ p ∈ s.rows, ∃ p' ∈ t.rows, p'.key = p.key
  reserved : ∀ p' ∈ t.rows, ∀ p ∈ s.rows, p.key = p'.key → p.reservedAt ≠ none →
    p'.reservedAt ≠ none

theorem PreKeysGrow.refl (t : PreKeyTable) : PreKeysGrow t t where
  kept := fun p hp => ⟨p, hp, rfl⟩
  reserved := fun p' hp' p hp hkey hne => by
    rwa [t.valid.eq hp hp' rfl rfl hkey] at hne

/-- What is handed out stays handed out. -/
theorem PreKeysSpent.unavailable_of_grow (hs : PreKeysSpent s) {t : PreKeyTable}
    (hgrow : PreKeysGrow s.store.preKeys t) (hr : r ∈ s.reservations)
    (hcommitted : r.status = .committed) (hp : p ∈ t.rows) (hk : p.key ∈ r.keys) :
    p.reservedAt ≠ none := by
  obtain ⟨p₀, hp₀, hkey⟩ := hs.kept r hr _ hk
  exact hgrow.reserved p hp p₀ hp₀ hkey
    (hs.unavailable r hr hcommitted p₀ hp₀ (hkey ▸ hk))

theorem PreKeysSpent.publish (hs : PreKeysSpent s) (hreservations : t.reservations = s.reservations)
    (hgrow : PreKeysGrow s.store.preKeys t.store.preKeys) : PreKeysSpent t := by
  refine ⟨hreservations ▸ hs.exclusive, hreservations ▸ hs.once, hreservations ▸ hs.marked, ?_, ?_⟩
  · intro r hr k hk
    rw [hreservations] at hr
    obtain ⟨p, hp, rfl⟩ := hs.kept r hr k hk
    exact hgrow.kept p hp
  · intro r hr hcommitted p hp hk
    exact hs.unavailable_of_grow hgrow (hreservations ▸ hr) hcommitted hp hk

/-- A transaction takes pre-keys that no other holds, or ends. -/
theorem PreKeysSpent.set (hs : PreKeysSpent s) {n : ℕ} {r' : Reservation}
    (hr : s.reservations[n]? = some r) (hrunning : r.status = .running)
    (hreservations : t.reservations = s.reservations.set n r')
    (hgrow : PreKeysGrow s.store.preKeys t.store.preKeys)
    (hkeys : ∀ k ∈ r'.keys, k ∈ r.keys ∨ Fresh s k ∧ ∃ p ∈ s.store.preKeys.rows, p.key = k)
    (honce : r'.keys.Nodup) (hmarked : ∀ p ∈ r'.preKeys, p.reservedAt ≠ none)
    (hspent : r'.status = .committed → ∀ p ∈ t.store.preKeys.rows, p.key ∈ r'.keys →
      p.reservedAt ≠ none) : PreKeysSpent t := by
  have hrmem := List.mem_of_getElem? hr
  have hmem : ∀ x ∈ t.reservations, x = r' ∨ x ∈ s.reservations := fun x hx =>
    of_mem_set (hreservations ▸ hx)
  -- what the transaction now holds, no other does
  have hother : ∀ (j : ℕ) (x : Reservation) (k : String × String × ℤ),
      s.reservations[j]? = some x → x.status ≠ .aborted → k ∈ r'.keys → k ∈ x.keys → n = j := by
    intro j x k hx hstatus hk hkx
    rcases hkeys k hk with hkr | ⟨hfresh, -⟩
    · exact hs.exclusive n j r x k hr hx (by rw [hrunning]; decide) hstatus hkr hkx
    · exact absurd hkx (hfresh x (List.mem_of_getElem? hx) hstatus)
  refine ⟨?_, ?_, ?_, ?_, ?_⟩
  · intro i j x y k hx hy hxs hys hkx hky
    rw [hreservations] at hx hy
    rcases of_getElem?_set hx with ⟨rfl, rfl⟩ | ⟨-, hx₀⟩
    · rcases of_getElem?_set hy with ⟨rfl, -⟩ | ⟨-, hy₀⟩
      · rfl
      · exact hother j y k hy₀ hys hkx hky
    · rcases of_getElem?_set hy with ⟨rfl, rfl⟩ | ⟨-, hy₀⟩
      · exact (hother i x k hx₀ hxs hky hkx).symm
      · exact hs.exclusive i j x y k hx₀ hy₀ hxs hys hkx hky
  · intro x hx
    rcases hmem x hx with rfl | hx
    · exact honce
    · exact hs.once x hx
  · intro x hx
    rcases hmem x hx with rfl | hx
    · exact hmarked
    · exact hs.marked x hx
  · intro x hx k hk
    have hold : ∃ p ∈ s.store.preKeys.rows, p.key = k := by
      rcases hmem x hx with rfl | hx
      · rcases hkeys k hk with hkr | ⟨-, hrow⟩
        · exact hs.kept r hrmem k hkr
        · exact hrow
      · exact hs.kept x hx k hk
    obtain ⟨p, hp, rfl⟩ := hold
    exact hgrow.kept p hp
  · intro x hx hcommitted p hp hk
    rcases hmem x hx with rfl | hx
    · exact hspent hcommitted p hp hk
    · exact hs.unavailable_of_grow hgrow hx hcommitted hp hk

/-- A transaction begins. -/
theorem PreKeysSpent.append (hs : PreKeysSpent s) {did : String} {devices : List MessengerDevice}
    (hstore : t.store = s.store)
    (hreservations : t.reservations = s.reservations ++ [⟨did, devices, [], .running⟩]) :
    PreKeysSpent t := by
  have hmem : ∀ x ∈ t.reservations, x ∈ s.reservations ∨ x = ⟨did, devices, [], .running⟩ := by
    intro x hx
    rw [hreservations, List.mem_append, List.mem_singleton] at hx
    exact hx
  have hget : ∀ (i : ℕ) (x : Reservation) (k : String × String × ℤ), t.reservations[i]? = some x →
      k ∈ x.keys → s.reservations[i]? = some x := by
    intro i x k hx hk
    rw [hreservations, List.getElem?_append] at hx
    split at hx
    · exact hx
    · obtain rfl := List.mem_singleton.1 (List.mem_of_getElem? hx)
      cases hk
  refine ⟨?_, ?_, ?_, ?_, ?_⟩
  · intro i j x y k hx hy hxs hys hkx hky
    exact hs.exclusive i j x y k (hget i x k hx hkx) (hget j y k hy hky) hxs hys hkx hky
  · intro x hx
    rcases hmem x hx with hx | rfl
    · exact hs.once x hx
    · exact List.nodup_nil
  · intro x hx p hp
    rcases hmem x hx with hx | rfl
    · exact hs.marked x hx p hp
    · cases hp
  · intro x hx k hk
    rw [hstore]
    rcases hmem x hx with hx | rfl
    · exact hs.kept x hx k hk
    · cases hk
  · intro x hx hcommitted p hp hk
    rw [hstore] at hp
    rcases hmem x hx with hx | rfl
    · exact hs.unavailable x hx hcommitted p hp hk
    · cases hk

/-! ### Steps -/

theorem preKeysGrow_append {s t : PreKeyTable} {new : List PreKey} (h : t.rows = s.rows ++ new) :
    PreKeysGrow s t where
  kept := fun p hp => ⟨p, h ▸ List.mem_append_left _ hp, rfl⟩
  reserved := fun p' hp' p hp hkey hne => by
    have hpt : p ∈ t.rows := h ▸ List.mem_append_left _ hp
    rwa [t.valid.eq hpt hp' rfl rfl hkey] at hne

theorem reserved_reservedAt {taken : List PreKey} (hmarked : ∀ q ∈ taken, q.reservedAt ≠ none)
    (h : (MessengerStore.reserved taken p).reservedAt = none) :
    p.reservedAt = none ∧ p.key ∉ taken.map PreKey.key := by
  unfold MessengerStore.reserved at h
  split at h
  · next q hq => exact absurd h (hmarked q (List.mem_of_find?_eq_some hq))
  · next hnone =>
    refine ⟨h, fun hmem => ?_⟩
    obtain ⟨q, hq, hkey⟩ := List.mem_map.1 hmem
    exact List.find?_eq_none.1 hnone q hq (beq_iff_eq.2 hkey)

theorem reserved_preKey (taken : List PreKey) (p : PreKey) :
    (MessengerStore.reserved taken p).preKey = p.preKey := by
  unfold MessengerStore.reserved
  split <;> rfl

theorem preKeysGrow_commit {taken : List PreKey} (hmarked : ∀ q ∈ taken, q.reservedAt ≠ none)
    (t : PreKeyTable) : PreKeysGrow t (commitReserved taken t) where
  kept := fun p hp => ⟨_, List.mem_map_of_mem hp, reserved_key taken p⟩
  reserved := by
    intro p' hp' p hp hkey hne hnone
    obtain ⟨p₀, hp₀, rfl⟩ := List.mem_map.1 hp'
    rw [reserved_key] at hkey
    obtain rfl := t.valid.eq hp hp₀ rfl rfl hkey
    exact hne (reserved_reservedAt hmarked hnone).1

theorem Reservation.next_cases (s : PreKeySystem) (now : Time) (r : Reservation) :
    r.next s now = r ∨ ∃ d rest, r.awaiting = d :: rest ∧
      ((r.next s now = { r with awaiting := rest, taken := r.taken ++ [(d, none)] }) ∨
        ∃ p ∈ s.store.preKeys.rows, p.device = d.key ∧ p.reservedAt = none ∧
          locked s p = false ∧ r.next s now =
            { r with
              awaiting := rest
              taken := r.taken ++ [(d, some { p with reservedAt := some now })] }) := by
  unfold Reservation.next
  cases h : r.awaiting with
  | nil => exact .inl rfl
  | cons d rest =>
    refine .inr ⟨d, rest, rfl, ?_⟩
    dsimp only
    cases hp : nextPreKey d.key (locked s) s.store with
    | none => exact .inl rfl
    | some p =>
      obtain ⟨hmem, hdevice, hfree, hlocked⟩ := nextPreKey_eq_some hp
      exact .inr ⟨p, hmem, hdevice, hfree, hlocked, rfl⟩

theorem PreKeysSpent.fresh (hs : PreKeysSpent s) (hp : p ∈ s.store.preKeys.rows)
    (hfree : p.reservedAt = none) (hlocked : locked s p = false) : Fresh s p.key := by
  intro r hr hstatus hk
  cases h : r.status with
  | running =>
    have hnot := List.any_eq_false.1 hlocked r hr
    rw [h, Bool.and_eq_true] at hnot
    exact hnot ⟨rfl, List.contains_iff_mem.2 hk⟩
  | committed => exact hs.unavailable r hr h p hp hk hfree
  | aborted => exact hstatus h

/-- **Reservations stay exclusive, whatever is published in between.** -/
theorem PreKeysSpent.step (hs : PreKeysSpent s) (a : PreKeyStep) :
    PreKeysSpent (preKeyStep s a) := by
  cases a with
  | publishDevice attrs =>
    refine hs.publish rfl ?_
    rcases publishDevice_cases attrs s.store with h | ⟨d, devices, -, -, h⟩
    · rw [preKeyStep, h]
      exact .refl _
    · rw [preKeyStep, h]
      exact .refl _
  | publishPreKeys attrs =>
    obtain ⟨preKeys, new, h, hrows, -⟩ := publishPreKeys_cases attrs s.store
    refine hs.publish rfl ?_
    rw [preKeyStep, h]
    exact preKeysGrow_append hrows
  | beginReserve did => exact hs.append rfl rfl
  | reserveNext n now =>
    dsimp only [preKeyStep]
    cases hr : s.reservations[n]? with
    | none => exact hs
    | some r =>
      dsimp only
      split
      swap
      · exact hs
      next hrunning =>
      have hrmem := List.mem_of_getElem? hr
      have honce := hs.once r hrmem
      have hmarked := hs.marked r hrmem
      rcases Reservation.next_cases s now r with h | ⟨d, rest, -, h | ⟨p, hp, -, hfree, hlocked, h⟩⟩
      · rw [h]
        exact hs.set hr hrunning rfl (.refl _) (fun k hk => .inl hk) honce hmarked
          fun hcommitted => absurd (hcommitted.symm.trans hrunning) (by decide)
      · have hpreKeys : (r.next s now).preKeys = r.preKeys := by
          rw [h, Reservation.preKeys, List.filterMap_append]
          exact List.append_nil _
        refine hs.set hr hrunning rfl (.refl _) ?_ ?_ ?_ ?_
        · intro k hk
          rw [Reservation.keys, hpreKeys] at hk
          exact .inl hk
        · rwa [Reservation.keys, hpreKeys]
        · rwa [hpreKeys]
        · intro hcommitted
          rw [h] at hcommitted
          exact absurd (hcommitted.symm.trans hrunning) (by decide)
      · have hfresh := hs.fresh hp hfree hlocked
        have hpreKeys : (r.next s now).preKeys =
            r.preKeys ++ [{ p with reservedAt := some now }] := by
          rw [h, Reservation.preKeys, List.filterMap_append]
          rfl
        have hkeys : (r.next s now).keys = r.keys ++ [p.key] := by
          rw [Reservation.keys, hpreKeys, List.map_append]
          rfl
        refine hs.set hr hrunning rfl (.refl _) ?_ ?_ ?_ ?_
        · intro k hk
          rw [hkeys, List.mem_append, List.mem_singleton] at hk
          rcases hk with hk | rfl
          · exact .inl hk
          · exact .inr ⟨hfresh, p, hp, rfl⟩
        · rw [hkeys, List.nodup_append]
          refine ⟨honce, List.nodup_singleton _, fun k hk k' hk' heq => ?_⟩
          obtain rfl := List.mem_singleton.1 hk'
          exact hfresh r hrmem (by rw [hrunning]; decide) (heq ▸ hk)
        · intro q hq
          rw [hpreKeys, List.mem_append, List.mem_singleton] at hq
          rcases hq with hq | rfl
          · exact hmarked q hq
          · exact Option.some_ne_none now
        · intro hcommitted
          rw [h] at hcommitted
          exact absurd (hcommitted.symm.trans hrunning) (by decide)
  | commit n =>
    dsimp only [preKeyStep]
    cases hr : s.reservations[n]? with
    | none => exact hs
    | some r =>
      dsimp only
      split
      swap
      · exact hs
      next hrunning =>
      have hrmem := List.mem_of_getElem? hr
      have hmarked := hs.marked r hrmem
      refine hs.set hr hrunning.1 rfl (preKeysGrow_commit hmarked _) (fun k hk => .inl hk)
        (hs.once r hrmem) hmarked ?_
      -- the commit marks the rows that the transaction has taken
      intro _ p hp hk hnone
      obtain ⟨p₀, -, rfl⟩ := List.mem_map.1 hp
      rw [reserved_key] at hk
      exact (reserved_reservedAt hmarked hnone).2 hk
  | abort n =>
    dsimp only [preKeyStep]
    cases hr : s.reservations[n]? with
    | none => exact hs
    | some r =>
      dsimp only
      split
      swap
      · exact hs
      next hrunning =>
      have hrmem := List.mem_of_getElem? hr
      exact hs.set hr hrunning rfl (.refl _) (fun k hk => .inl hk) (hs.once r hrmem)
        (hs.marked r hrmem) fun hcommitted => nomatch hcommitted

/-! ### Generations -/

/-- What is left of a device's pre-keys, and what transactions have taken, was published under the
identity key that goes with it. -/
structure GenerationsKept (s : PreKeySystem) : Prop where
  owned : ∀ p ∈ s.store.preKeys.rows, ∃ d ∈ s.store.devices.rows, d.key = p.device
  current : ∀ p ∈ s.store.preKeys.rows, p.reservedAt = none → ∀ d ∈ s.store.devices.rows,
    d.key = p.device → PublishedUnder s p d.messengerIdentityKey
  awaiting : ∀ r ∈ s.reservations, r.status = .running → ∀ d ∈ r.awaiting,
    ∃ d' ∈ s.store.devices.rows, d'.key = d.key ∧ d'.messengerIdentityKey = d.messengerIdentityKey
  taken : ∀ r ∈ s.reservations, ∀ d p, (d, some p) ∈ r.taken →
    p.device = d.key ∧ PublishedUnder s p d.messengerIdentityKey

theorem GenerationsKept.publishDevice (hs : GenerationsKept s) {attrs : Json}
    (ha : KeepsGeneration s (.publishDevice attrs)) :
    GenerationsKept (preKeyStep s (.publishDevice attrs)) := by
  dsimp only [preKeyStep]
  rcases publishDevice_cases attrs s.store with h | ⟨d, devices, hd, hupsert, h⟩
  · rw [h]
    exact hs
  rw [h]
  have hmem : d ∈ (deviceOf attrs).toOption := by
    rw [hd]
    rfl
  refine ⟨?_, ?_, ?_, hs.taken⟩
  · intro p hp
    obtain ⟨x, hx, hkey⟩ := hs.owned p hp
    by_cases heq : x.key = d.key
    · exact ⟨d, (mem_upsertDevice hupsert).2 (.inl rfl), heq.symm.trans hkey⟩
    · exact ⟨x, (mem_upsertDevice hupsert).2 (.inr ⟨hx, heq⟩), hkey⟩
  · intro p hp hfree x hx hkey
    rcases (mem_upsertDevice hupsert).1 hx with rfl | ⟨hx, -⟩
    · -- the device that the row had before
      obtain ⟨d', hd', hkey'⟩ := hs.owned p hp
      rcases ha x hmem d' hd' (hkey'.trans hkey.symm) with hsame | ⟨hnone, -⟩
      · rw [← hsame]
        exact hs.current p hp hfree d' hd' hkey'
      · exact absurd hfree (hnone p hp hkey.symm)
    · exact hs.current p hp hfree x hx hkey
  · intro r hr hrunning x hx
    obtain ⟨x', hx', hkey, hidentity⟩ := hs.awaiting r hr hrunning x hx
    by_cases heq : x'.key = d.key
    · rcases ha d hmem x' hx' heq with hsame | ⟨-, hnot⟩
      · exact ⟨d, (mem_upsertDevice hupsert).2 (.inl rfl), heq.symm.trans hkey,
          hsame.symm.trans hidentity⟩
      · exact absurd (hkey.symm.trans heq) (hnot r hr hrunning x hx)
    · exact ⟨x', (mem_upsertDevice hupsert).2 (.inr ⟨hx', heq⟩), hkey, hidentity⟩

theorem identityKeyOf_eq {s : MessengerStore} (hd : d ∈ s.devices.rows) :
    identityKeyOf d.key s = d.messengerIdentityKey := by
  have hfind : (s.devices.find fun x => x.key == d.key) = some d :=
    (Table.find_eq_some_iff fun a ha b hb hka hkb => s.devices.valid.eq ha hb rfl rfl
      ((beq_iff_eq.1 hka).trans (beq_iff_eq.1 hkb).symm)).2 ⟨hd, beq_iff_eq.2 rfl⟩
  rw [identityKeyOf, hfind]

theorem GenerationsKept.publishPreKeys (hs : GenerationsKept s) (attrs : Json) :
    GenerationsKept (preKeyStep s (.publishPreKeys attrs)) := by
  obtain ⟨preKeys, new, h, hrows, hnew⟩ := publishPreKeys_cases attrs s.store
  have hinserted : insertedPreKeys s.store { s.store with preKeys } = new := by
    rw [insertedPreKeys, hrows]
    exact List.drop_left
  dsimp only [preKeyStep]
  rw [h, hinserted]
  have hmono : ∀ {p : PreKey} {identityKey : String}, PublishedUnder s p identityKey →
      ∃ q ∈ s.published ++ new.map fun p => ⟨p, identityKeyOf p.device s.store⟩,
        q.preKey.key = p.key ∧ q.preKey.preKey = p.preKey ∧ q.identityKey = identityKey := by
    rintro p identityKey ⟨q, hq, hrest⟩
    exact ⟨q, List.mem_append_left _ hq, hrest⟩
  refine ⟨?_, ?_, hs.awaiting, ?_⟩
  · intro p hp
    rcases List.mem_append.1 (hrows ▸ hp) with hp | hp
    · exact hs.owned p hp
    · obtain ⟨d, hd, hkey⟩ := List.any_eq_true.1 (hnew p hp).2
      exact ⟨d, hd, beq_iff_eq.1 hkey⟩
  · intro p hp hfree d hd hkey
    rcases List.mem_append.1 (hrows ▸ hp) with hp | hp
    · exact hmono (hs.current p hp hfree d hd hkey)
    · refine ⟨⟨p, identityKeyOf p.device s.store⟩,
        List.mem_append_right _ (List.mem_map_of_mem hp), rfl, rfl, ?_⟩
      rw [← hkey]
      exact identityKeyOf_eq hd
  · intro r hr d p hp
    obtain ⟨hdevice, hpublished⟩ := hs.taken r hr d p hp
    exact ⟨hdevice, hmono hpublished⟩

/-- A transaction takes the next device, or ends. -/
theorem GenerationsKept.set (hs : GenerationsKept s) {n : ℕ} {r' : Reservation}
    (hr : s.reservations[n]? = some r) (hrunning : r.status = .running)
    (hreservations : t.reservations = s.reservations.set n r')
    (hpublished : t.published = s.published) (hdevices : t.store.devices = s.store.devices)
    (hrows : ∀ p ∈ t.store.preKeys.rows, ∃ p₀ ∈ s.store.preKeys.rows, p.key = p₀.key ∧
      p.preKey = p₀.preKey ∧ (p.reservedAt = none → p₀.reservedAt = none))
    (hawaiting : r'.awaiting ⊆ r.awaiting)
    (htaken : ∀ d p, (d, some p) ∈ r'.taken → (d, some p) ∈ r.taken ∨ d ∈ r.awaiting ∧
      ∃ p₀ ∈ s.store.preKeys.rows, p₀.reservedAt = none ∧ p₀.device = d.key ∧ p.key = p₀.key ∧
        p.preKey = p₀.preKey) : GenerationsKept t := by
  have hrmem := List.mem_of_getElem? hr
  have hmem : ∀ x ∈ t.reservations, x = r' ∨ x ∈ s.reservations := fun x hx =>
    of_mem_set (hreservations ▸ hx)
  have hdevice : ∀ {p p₀ : PreKey}, p.key = p₀.key → p.device = p₀.device := by
    intro p p₀ h
    obtain ⟨hdid, hrest⟩ := Prod.mk.inj h
    exact Prod.ext hdid (Prod.mk.inj hrest).1
  have hcongr : ∀ {p p₀ : PreKey} {identityKey : String}, p.key = p₀.key → p.preKey = p₀.preKey →
      PublishedUnder s p₀ identityKey → PublishedUnder t p identityKey := by
    rintro p p₀ identityKey hkey hpreKey ⟨q, hq, hqk, hqp, hqi⟩
    exact ⟨q, hpublished ▸ hq, hqk.trans hkey.symm, hqp.trans hpreKey.symm, hqi⟩
  refine ⟨?_, ?_, ?_, ?_⟩
  · intro p hp
    obtain ⟨p₀, hp₀, hkey, -⟩ := hrows p hp
    rw [hdevices, hdevice hkey]
    exact hs.owned p₀ hp₀
  · -- what is free now was free before
    intro p hp hfree d hd hkey
    obtain ⟨p₀, hp₀, hpk, hpreKey, hfree₀⟩ := hrows p hp
    rw [hdevices] at hd
    exact hcongr hpk hpreKey (hs.current p₀ hp₀ (hfree₀ hfree) d hd (hkey.trans (hdevice hpk)))
  · intro x hx hxrunning d hd
    rw [hdevices]
    rcases hmem x hx with rfl | hx
    · exact hs.awaiting r hrmem hrunning d (hawaiting hd)
    · exact hs.awaiting x hx hxrunning d hd
  · intro x hx d p hp
    have hold : ∀ y ∈ s.reservations, (d, some p) ∈ y.taken →
        p.device = d.key ∧ PublishedUnder t p d.messengerIdentityKey := by
      intro y hy hpy
      obtain ⟨hpd, hpub⟩ := hs.taken y hy d p hpy
      exact ⟨hpd, hcongr rfl rfl hpub⟩
    rcases hmem x hx with rfl | hx
    · rcases htaken d p hp with hpr | ⟨hd, p₀, hp₀, hfree, hpd, hkey, hpreKey⟩
      · exact hold r hrmem hpr
      · -- the device is as the transaction has read it
        obtain ⟨d', hd', hdkey, hidentity⟩ := hs.awaiting r hrmem hrunning d hd
        have hpub := hs.current p₀ hp₀ hfree d' hd' (hdkey.trans hpd.symm)
        rw [hidentity] at hpub
        exact ⟨(hdevice hkey).trans hpd, hcongr hkey hpreKey hpub⟩
    · exact hold x hx hp

theorem GenerationsKept.append (hs : GenerationsKept s) (did : String) :
    GenerationsKept (preKeyStep s (.beginReserve did)) := by
  have hmem : ∀ x ∈ (preKeyStep s (.beginReserve did)).reservations, x ∈ s.reservations ∨
      x = ⟨did, devicesOf did s.store, [], .running⟩ := by
    intro x hx
    rcases List.mem_append.1 hx with hx | hx
    · exact .inl hx
    · exact .inr (List.mem_singleton.1 hx)
  refine ⟨hs.owned, hs.current, ?_, ?_⟩
  · intro r hr hrunning d hd
    rcases hmem r hr with hr | rfl
    · exact hs.awaiting r hr hrunning d hd
    · exact ⟨d, mem_devicesOf hd, rfl, rfl⟩
  · intro r hr d p hp
    rcases hmem r hr with hr | rfl
    · exact hs.taken r hr d p hp
    · cases hp

theorem GenerationsKept.step (hs : GenerationsKept s) (hspent : PreKeysSpent s) {a : PreKeyStep}
    (ha : KeepsGeneration s a) : GenerationsKept (preKeyStep s a) := by
  have hsame : ∀ p ∈ s.store.preKeys.rows, ∃ p₀ ∈ s.store.preKeys.rows, p.key = p₀.key ∧
      p.preKey = p₀.preKey ∧ (p.reservedAt = none → p₀.reservedAt = none) :=
    fun p hp => ⟨p, hp, rfl, rfl, id⟩
  cases a with
  | publishDevice attrs => exact hs.publishDevice ha
  | publishPreKeys attrs => exact hs.publishPreKeys attrs
  | beginReserve did => exact hs.append did
  | reserveNext n now =>
    dsimp only [preKeyStep]
    cases hr : s.reservations[n]? with
    | none => exact hs
    | some r =>
      dsimp only
      split
      swap
      · exact hs
      next hrunning =>
      -- nothing is left to take, the device has no free pre-key, or one is taken
      rcases Reservation.next_cases s now r with
        h | ⟨d, rest, hawait, h | ⟨p, hp, hpd, hfree, -, h⟩⟩
      · rw [h]
        exact hs.set hr hrunning rfl rfl rfl hsame (fun _ h => h) fun _ _ h => .inl h
      · rw [h]
        refine hs.set hr hrunning rfl rfl rfl hsame ?_ ?_
        · rw [hawait]
          exact List.subset_cons_self d rest
        · intro d' p' hp'
          rcases List.mem_append.1 hp' with hp' | hp'
          · exact .inl hp'
          · cases List.mem_singleton.1 hp'
      · rw [h]
        refine hs.set hr hrunning rfl rfl rfl hsame ?_ ?_
        · rw [hawait]
          exact List.subset_cons_self d rest
        · intro d' p' hp'
          rcases List.mem_append.1 hp' with hp' | hp'
          · exact .inl hp'
          · obtain ⟨rfl, hsome⟩ := Prod.mk.inj (List.mem_singleton.1 hp')
            cases hsome
            exact .inr ⟨hawait ▸ List.mem_cons_self, p, hp, hfree, hpd, rfl, rfl⟩
  | commit n =>
    dsimp only [preKeyStep]
    cases hr : s.reservations[n]? with
    | none => exact hs
    | some r =>
      dsimp only
      split
      swap
      · exact hs
      next hrunning =>
      -- the commit marks pre-keys, and marks none as free
      refine hs.set hr hrunning.1 rfl rfl rfl ?_ (fun _ h => h) fun _ _ h => .inl h
      intro p hp
      obtain ⟨p₀, hp₀, rfl⟩ := List.mem_map.1 hp
      have hmarked := hspent.marked r (List.mem_of_getElem? hr)
      exact ⟨p₀, hp₀, reserved_key _ _, reserved_preKey _ _,
        fun hnone => (reserved_reservedAt hmarked hnone).1⟩
  | abort n =>
    dsimp only [preKeyStep]
    cases hr : s.reservations[n]? with
    | none => exact hs
    | some r =>
      dsimp only
      split
      swap
      · exact hs
      next hrunning =>
      exact hs.set hr hrunning rfl rfl rfl hsame (fun _ h => h) fun _ _ h => .inl h

/-! ### Runs -/

theorem preKeysSpent_empty : PreKeysSpent .empty where
  exclusive := fun _ _ _ _ _ h => by cases h
  once := fun _ h => by cases h
  marked := fun _ h => by cases h
  kept := fun _ h => by cases h
  unavailable := fun _ h => by cases h

theorem generationsKept_empty : GenerationsKept .empty where
  owned := fun _ h => by cases h
  current := fun _ h => by cases h
  awaiting := fun _ h => by cases h
  taken := fun _ h => by cases h

/-- **No run hands out a pre-key twice.** -/
theorem preKeys_spent (as : List PreKeyStep) : PreKeysSpent (exec preKeyStep .empty as) :=
  exec_invariant (fun _ a h => h.step a) preKeysSpent_empty as

/-- **In every run that keeps generations apart the law holds.**  Two invariants carry the run.  A
pre-key is held by one transaction at most, and is not offered once it is handed out; and what is
left or taken of a device's pre-keys was published under the identity key that it has. -/
theorem pre_key_law {as : List PreKeyStep} (h : Along preKeyStep KeepsGeneration .empty as) :
    PreKeyLaw (exec preKeyStep .empty as) := by
  have hgenerations : PreKeysSpent (exec preKeyStep .empty as) ∧
      GenerationsKept (exec preKeyStep .empty as) :=
    h.invariant (I := fun s => PreKeysSpent s ∧ GenerationsKept s)
      (fun _ a hs ha => ⟨hs.1.step a, hs.2.step hs.1 ha⟩)
      ⟨preKeysSpent_empty, generationsKept_empty⟩
  obtain ⟨hspent, hkept⟩ := hgenerations
  have hcommitted : ∀ {r : Reservation}, r.status = .committed → r.status ≠ .aborted := by
    intro r hr
    rw [hr]
    decide
  refine ⟨?_, fun r hr _ => hspent.once r hr, hspent.unavailable, fun r hr _ => hkept.taken r hr⟩
  intro i j r r' k hr hr' hc hc' hk hk'
  exact hspent.exclusive i j r r' k hr hr' (hcommitted hc) (hcommitted hc') hk hk'

/-! ### One run -/

/-- A device as it is published, with the identity key. -/
def deviceAttrs (identityKey : String) : Json :=
  .obj [("subject_did", .str "did:elix:b"), ("device_id", .str "phone"),
    ("bundle", .obj [("messenger_identity_key", .str identityKey), ("signed_pre_key_id", .int 1),
      ("signed_pre_key", .str "spk"), ("signed_pre_key_signature", .str "sig")]),
    ("binding_signature", .str "bsig")]

def preKeyAttrs (preKeyId : ℤ) : Json :=
  .obj [("subject_did", .str "did:elix:b"), ("device_id", .str "phone"),
    ("pre_keys", .arr [.obj [("pre_key_id", .int preKeyId), ("pre_key", .str "opk")]])]

/-- A device with a pre-key is published anew, and a bundle is fetched. -/
def bundleRun (identityKey : String) : List PreKeyStep :=
  [.publishDevice (deviceAttrs "ik"), .publishPreKeys (preKeyAttrs 1),
    .publishDevice (deviceAttrs identityKey), .beginReserve "did:elix:b", .reserveNext 0 1,
    .commit 0]

theorem pre_key_law_toy : PreKeyLaw (exec preKeyStep .empty (bundleRun "ik")) :=
  pre_key_law (by decide +kernel)

/-- The identity keys of the bundles that hold pre-keys, and those under which pre-keys were
published. -/
def PreKeySystem.outcome (s : PreKeySystem) : List String × List String :=
  (((s.reservations.filter (·.status = .committed)).flatMap fun r =>
      (r.taken.filter (·.2.isSome)).map (·.1.messengerIdentityKey)),
    s.published.map (·.identityKey))

/-- The bundle carries the new identity key with a pre-key of the old one. -/
theorem bundle_mixes_generations : ¬ PreKeyLaw (exec preKeyStep .empty (bundleRun "ik2")) := by
  have h : (exec preKeyStep .empty (bundleRun "ik2")).outcome = (["ik2"], ["ik"]) := by
    decide +kernel
  generalize exec preKeyStep .empty (bundleRun "ik2") = s at h ⊢
  intro hlaw
  obtain ⟨hbundles, hpublished⟩ := Prod.mk.inj h
  have hmem : "ik2" ∈ (s.reservations.filter (·.status = .committed)).flatMap fun r =>
      (r.taken.filter (·.2.isSome)).map (·.1.messengerIdentityKey) := by
    rw [hbundles]
    exact List.mem_singleton.2 rfl
  obtain ⟨r, hr, hmem⟩ := List.mem_flatMap.1 hmem
  obtain ⟨⟨d, p⟩, ht, hidentity⟩ := List.mem_map.1 hmem
  obtain ⟨hr, hcommitted⟩ := List.mem_filter.1 hr
  obtain ⟨ht, hsome⟩ := List.mem_filter.1 ht
  obtain ⟨p, rfl⟩ := Option.isSome_iff_exists.1 hsome
  obtain ⟨-, q, hq, -, -, hqi⟩ := hlaw.generation r hr (of_decide_eq_true hcommitted) d p ht
  have hq' : q.identityKey ∈ s.published.map (·.identityKey) := List.mem_map_of_mem hq
  rw [hpublished, List.mem_singleton, hqi] at hq'
  exact absurd (hidentity.symm.trans hq') (by decide)

end Ansible
