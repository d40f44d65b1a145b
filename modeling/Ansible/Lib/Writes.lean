import Mathlib.Data.List.Infix

/-!
# Writes to a keyed store

A sequence of writes to a keyed store, each of which puts a value under a key or removes
it.  The last write to a key decides its value, so writing a part of the sequence again
is harmless exactly for the keys whose last write in that part has the last word anyway.

## Main definitions

* `writes m ws` — the store after the writes.
* `lastWrite k ws` — what the last write to a key puts there.
* `EndsAs rs ws` — the keys of `rs` end as `ws` leaves them.

## Main results

* `writes_apply` — the value under a key.
* `writes_replay_iff` — **when a replay of writes changes nothing.**
-/

namespace Ansible

variable {κ β : Type*} [DecidableEq κ]

/-- The store after one write: a value under a key, or none. -/
def writeTo (m : κ → Option β) (w : κ × Option β) : κ → Option β :=
  Function.update m w.1 w.2

def writes (m : κ → Option β) (ws : List (κ × Option β)) : κ → Option β := ws.foldl writeTo m

/-- What the last write to `k` puts there. -/
def lastWrite (k : κ) : List (κ × Option β) → Option (Option β)
  | [] => none
  | w :: ws => (lastWrite k ws).or (if w.1 = k then some w.2 else none)

/-- Each key that `rs` writes ends as `ws` leaves it. -/
def EndsAs (rs ws : List (κ × Option β)) : Prop :=
  ∀ k v, lastWrite k rs = some v → lastWrite k ws = some v

variable (m : κ → Option β) (ws : List (κ × Option β))

@[simp] theorem writes_nil : writes m [] = m := rfl

@[simp] theorem writes_cons (w : κ × Option β) (ws : List (κ × Option β)) :
    writes m (w :: ws) = writes (writeTo m w) ws := rfl

theorem writes_append (ws' : List (κ × Option β)) :
    writes m (ws ++ ws') = writes (writes m ws) ws' := List.foldl_append

/-- The value under a key after the writes. -/
theorem writes_apply (k : κ) : writes m ws k = (lastWrite k ws).getD (m k) := by
  induction ws generalizing m with
  | nil => rfl
  | cons w ws ih =>
    rw [writes_cons, ih, lastWrite]
    cases lastWrite k ws with
    | some v => rfl
    | none =>
      by_cases hk : w.1 = k
      · subst hk
        simp [writeTo]
      · simp [writeTo, hk, Function.update_of_ne (Ne.symm hk)]

theorem lastWrite_isSome {k : κ} {ws : List (κ × Option β)} :
    (lastWrite k ws).isSome = true ↔ ∃ w ∈ ws, w.1 = k := by
  induction ws with
  | nil => simp [lastWrite]
  | cons w ws ih =>
    rw [lastWrite, Option.isSome_or, Bool.or_eq_true, ih]
    constructor
    · rintro (⟨x, hx, hk⟩ | h)
      · exact ⟨x, List.mem_cons_of_mem w hx, hk⟩
      · split at h
        · next hk => exact ⟨w, by simp, hk⟩
        · cases h
    · rintro ⟨x, hx, hk⟩
      rcases List.mem_cons.1 hx with rfl | hx
      · exact .inr (by simp [hk])
      · exact .inl ⟨x, hx, hk⟩

/-- **When a replay of writes changes nothing**: the last write to each key in the replay has
the effect of the last write to it at all. -/
theorem writes_replay_iff {m : κ → Option β} {ws rs : List (κ × Option β)}
    (hsub : ∀ w ∈ rs, w ∈ ws) :
    writes (writes m ws) rs = writes m ws ↔ EndsAs rs ws := by
  constructor
  · intro h k v hk
    have hval := congrFun h k
    rw [writes_apply, hk, Option.getD_some, writes_apply] at hval
    obtain ⟨w, hw, hwk⟩ := lastWrite_isSome.1 (by rw [hk]; rfl : (lastWrite k rs).isSome = true)
    obtain ⟨v', hv'⟩ :=
      Option.isSome_iff_exists.1 (lastWrite_isSome.2 ⟨w, hsub w hw, hwk⟩)
    rw [hv', Option.getD_some] at hval
    rw [hv', hval]
  · intro h
    funext k
    rw [writes_apply]
    cases hk : lastWrite k rs with
    | none => rfl
    | some v => rw [writes_apply, h k v hk, Option.getD_some, Option.getD_some]

end Ansible
