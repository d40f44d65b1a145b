import Mathlib.Data.List.Sort

/-!
# Newest first

Records listed in the order of falling keys, as a feed shows them.  A list with falling keys is
determined by its members, and what is below the key of a record is what stands behind it, so
that a reader who goes on below the last key of each page skips and repeats nothing.

## Main definitions

* `newest key l` — the records of `l` in the order of falling keys.
* `Falling key l` — the keys of `l` fall.
* `below key c l` — the records of `l` under a cursor.
* `rank key l x` — how many records of `l` are newer than `x`.
* `Held key max l i` — the window `l` holds the key `i`, or is full of newer records.

## Main results

* `newest_eq` — a list with falling keys is what `newest` makes of its members.
* `Falling.below_getLast` — **the records below the end of a page are those behind it.**
* `Falling.take_eq_filter` — the first records are those of small rank.
* `mem_of_mem_eraseDupsBy`, `exists_of_mem_eraseDupsBy` — one record for each key.
* `Held.take` — a window that takes in further records holds what it held.
-/

namespace Ansible

theorem nodup_eraseDups {α : Type*} [BEq α] [LawfulBEq α] (l : List α) : l.eraseDups.Nodup := by
  induction h : l.length using Nat.strong_induction_on generalizing l with
  | _ n ih =>
    cases l with
    | nil => exact List.nodup_nil
    | cons a l =>
      have hlen : (l.filter fun b => !b == a).length < n := by
        rw [← h, List.length_cons]
        exact Nat.lt_succ_of_le (List.length_filter_le _ l)
      rw [List.eraseDups_cons, List.nodup_cons, List.mem_eraseDups, List.mem_filter]
      exact ⟨fun hmem => by simp at hmem, ih _ hlen _ rfl⟩

theorem mem_of_mem_eraseDupsBy {α : Type*} {r : α → α → Bool} {l : List α} {x : α}
    (h : x ∈ l.eraseDupsBy r) : x ∈ l := by
  induction hlen : l.length using Nat.strong_induction_on generalizing l with
  | _ n ih =>
    cases l with
    | nil => exact h
    | cons a l =>
      rw [List.eraseDupsBy_cons, List.mem_cons] at h
      rcases h with rfl | h
      · exact List.mem_cons_self
      · have hshort : (l.filter fun b => r b a = false).length < n := by
          rw [← hlen, List.length_cons]
          exact Nat.lt_succ_of_le (List.length_filter_le _ l)
        exact List.mem_cons_of_mem _ (List.mem_of_mem_filter (ih _ hshort h rfl))

/-- The records that are kept have distinct keys, and stand for all others. -/
theorem exists_of_mem_eraseDupsBy {α κ : Type*} [DecidableEq κ] {k : α → κ} {l : List α} :
    ((l.eraseDupsBy fun a b => k a == k b).map k).Nodup ∧
      ∀ x ∈ l, ∃ y ∈ l.eraseDupsBy (fun a b => k a == k b), k y = k x := by
  induction hlen : l.length using Nat.strong_induction_on generalizing l with
  | _ n ih =>
    cases l with
    | nil => exact ⟨List.nodup_nil, fun x hx => absurd hx List.not_mem_nil⟩
    | cons a l =>
      have hshort : (l.filter fun b => decide ((k b == k a) = false)).length < n := by
        rw [← hlen, List.length_cons]
        exact Nat.lt_succ_of_le (List.length_filter_le _ l)
      obtain ⟨hnodup, hall⟩ := ih _ hshort rfl
      rw [List.eraseDupsBy_cons]
      refine ⟨List.nodup_cons.2 ⟨fun hmem => ?_, hnodup⟩, fun x hx => ?_⟩
      · obtain ⟨b, hb, hkey⟩ := List.mem_map.1 hmem
        have hne := of_decide_eq_true (List.mem_filter.1 (mem_of_mem_eraseDupsBy hb)).2
        exact beq_eq_false_iff_ne.1 hne hkey
      · by_cases hkey : k x = k a
        · exact ⟨a, List.mem_cons_self, hkey.symm⟩
        · have hmem : x ∈ l.filter fun b => decide ((k b == k a) = false) := by
            rcases List.mem_cons.1 hx with rfl | hx
            · exact absurd rfl hkey
            · exact List.mem_filter.2 ⟨hx, decide_eq_true (beq_eq_false_iff_ne.2 hkey)⟩
          obtain ⟨y, hy, hyx⟩ := hall x hmem
          exact ⟨y, List.mem_cons_of_mem _ hy, hyx⟩

variable {α β : Type*} (key : α → ℤ)

/-- The records in the order of falling keys. -/
def newest (l : List α) : List α := l.insertionSort fun a b => key b ≤ key a

/-- The keys fall along the list. -/
def Falling (l : List α) : Prop := l.Pairwise fun a b => key b < key a

/-- The records under a cursor. -/
def below (cursor : Option ℤ) (l : List α) : List α :=
  match cursor with
  | none => l
  | some c => l.filter fun a => decide (key a < c)

/-- The number of records that are newer. -/
def rank (l : List α) (x : α) : ℕ := l.countP fun y => decide (key x < key y)

variable {key}

@[simp] theorem mem_newest {l : List α} {x : α} : x ∈ newest key l ↔ x ∈ l :=
  List.mem_insertionSort _

theorem falling_newest {l : List α} (h : (l.map key).Nodup) : Falling key (newest key l) := by
  have htotal : Std.Total fun a b : α => key b ≤ key a := ⟨fun a b => le_total (key b) (key a)⟩
  have htrans : IsTrans α fun a b => key b ≤ key a := ⟨fun _ _ _ hab hbc => hbc.trans hab⟩
  have hsorted := List.pairwise_insertionSort (fun a b : α => key b ≤ key a) l
  have hnodup : ((newest key l).map key).Nodup :=
    ((List.perm_insertionSort _ l).map key).nodup_iff.2 h
  refine (hsorted.and (List.pairwise_map.1 hnodup)).imp fun hab => ?_
  exact lt_of_le_of_ne hab.1 fun heq => hab.2 heq.symm

namespace Falling

variable {l l' : List α}

theorem nodup (h : Falling key l) : l.Nodup := h.imp fun hlt heq => (heq ▸ hlt).false

theorem nodup_keys (h : Falling key l) : (l.map key).Nodup :=
  List.pairwise_map.2 (h.imp fun hlt => hlt.ne')

theorem sublist (h : Falling key l) (hl : l'.Sublist l) : Falling key l' :=
    List.Pairwise.sublist hl h

theorem filter (h : Falling key l) (p : α → Bool) : Falling key (l.filter p) :=
  h.sublist List.filter_sublist

theorem map {key' : β → ℤ} (h : Falling key l) {f : α → β} (hf : ∀ a, key' (f a) = key a) :
    Falling key' (l.map f) :=
  List.pairwise_map.2 (h.imp fun hlt => by rwa [hf, hf])

theorem eq (h : Falling key l) (h' : Falling key l') (hmem : ∀ x, x ∈ l ↔ x ∈ l') : l = l' :=
  List.Perm.eq_of_pairwise (fun _ _ _ _ hab hba => absurd hab hba.asymm) h h'
    ((List.perm_ext_iff_of_nodup h.nodup h'.nodup).2 hmem)

theorem eq_of_key (h : Falling key l) {x y : α} (hx : x ∈ l) (hy : y ∈ l) (hkey : key x = key y) :
    x = y := List.inj_on_of_nodup_map h.nodup_keys hx hy hkey

/-- **The records below the end of a page are those behind it.** -/
theorem below_getLast (h : Falling key l) {n : ℕ} {x : α} (hx : (l.take n).getLast? = some x) :
    below key (some (key x)) l = l.drop n := by
  have hsplit := h
  rw [← List.take_append_drop n l] at hsplit
  have hpair := List.pairwise_append.1 hsplit
  have hmem : x ∈ l.take n := List.mem_of_getLast? hx
  have hfront : ∀ y ∈ l.take n, key x ≤ key y := by
    obtain ⟨front, hfront⟩ := List.getLast?_eq_some_iff.1 hx
    rw [hfront] at hpair ⊢
    intro y hy
    rcases List.mem_append.1 hy with hy | hy
    · exact ((List.pairwise_append.1 hpair.1).2.2 y hy x (List.mem_singleton.2 rfl)).le
    · rw [List.mem_singleton.1 hy]
  conv_lhs => rw [below, ← List.take_append_drop n l, List.filter_append]
  rw [List.filter_eq_nil_iff.2, List.nil_append, List.filter_eq_self.2]
  · exact fun y hy => decide_eq_true (hpair.2.2 x hmem y hy)
  · exact fun y hy hlt => (of_decide_eq_true hlt).not_ge (hfront y hy)

/-- The first records are those of small rank. -/
theorem take_eq_filter (h : Falling key l) (n : ℕ) :
    l.take n = l.filter fun x => decide (rank key l x < n) := by
  induction l generalizing n with
  | nil => rw [List.take_nil, List.filter_nil]
  | cons a l ih =>
    obtain ⟨ha, hl⟩ := List.pairwise_cons.1 h
    have hhead : rank key (a :: l) a = 0 := by
      rw [rank, List.countP_eq_zero]
      intro y hy hlt
      rcases List.mem_cons.1 hy with rfl | hy
      · exact absurd (of_decide_eq_true hlt) (lt_irrefl _)
      · exact absurd (of_decide_eq_true hlt) (ha y hy).asymm
    have htail : ∀ x ∈ l, rank key (a :: l) x = rank key l x + 1 := fun x hx => by
      rw [rank, List.countP_cons, if_pos (decide_eq_true (ha x hx)), ← rank]
    rw [List.filter_cons, hhead]
    cases n with
    | zero => simp
    | succ n =>
      rw [List.take_succ_cons, if_pos (decide_eq_true (Nat.succ_pos n)), ih hl]
      refine congrArg (a :: ·) (List.filter_congr fun x hx => ?_)
      rw [htail x hx]
      exact decide_eq_decide.2 Nat.succ_lt_succ_iff.symm

end Falling

/-- A list with falling keys is what `newest` makes of its members. -/
theorem newest_eq {l l' : List α} (h : (l.map key).Nodup) (h' : Falling key l')
    (hmem : ∀ x, x ∈ l ↔ x ∈ l') : newest key l = l' :=
  (falling_newest h).eq h' fun x => mem_newest.trans (hmem x)

@[simp] theorem mem_below {cursor : Option ℤ} {l : List α} {x : α} :
    x ∈ below key cursor l ↔ x ∈ l ∧ ∀ c ∈ cursor, key x < c := by
  cases cursor with
  | none => simp [below]
  | some c => simp [below]

theorem below_sublist (cursor : Option ℤ) (l : List α) : (below key cursor l).Sublist l := by
  cases cursor with
  | none => exact List.Sublist.refl _
  | some c => exact List.filter_sublist

theorem Falling.below {l : List α} (h : Falling key l) (cursor : Option ℤ) :
    Falling key (below key cursor l) := h.sublist (below_sublist cursor l)

theorem below_of_mem {cursor : Option ℤ} {l : List α} {x : α} (hx : x ∈ below key cursor l) :
    below key (some (key x)) l = below key (some (key x)) (below key cursor l) := by
  cases cursor with
  | none => rfl
  | some c =>
    have hlt : key x < c := (mem_below.1 hx).2 c rfl
    simp only [below, List.filter_filter]
    refine List.filter_congr fun y _ => ?_
    rw [← Bool.decide_and]
    exact decide_eq_decide.2 ⟨fun h => ⟨h, h.trans hlt⟩, And.left⟩

theorem take_filter_of_take {l : List α} {n : ℕ} {p : α → Bool}
    (h : ∀ x ∈ l.take n, p x = true) : (l.filter p).take n = l.take n := by
  have hsplit : l.filter p = l.take n ++ (l.drop n).filter p := by
    conv_lhs => rw [← List.take_append_drop n l, List.filter_append]
    rw [List.filter_eq_self.2 h]
  rw [hsplit, List.take_append, List.take_take, Nat.min_self]
  by_cases hn : n ≤ l.length
  · rw [List.length_take, Nat.min_eq_left hn, Nat.sub_self, List.take_zero, List.append_nil]
  · rw [List.drop_eq_nil_of_le (not_le.1 hn).le, List.filter_nil, List.take_nil, List.append_nil]

/-! ### A window of the newest records -/

variable (key)

/-- `i` is older than a list that is full. -/
def Behind (max : ℕ) (l : List α) (i : ℤ) : Prop := max ≤ l.length ∧ ∀ x ∈ l, i < key x

/-- `i` is the key of a record, or has fallen out of the window. -/
def Held (max : ℕ) (l : List α) (i : ℤ) : Prop := (∃ x ∈ l, key x = i) ∨ Behind key max l i

variable {key}

/-- A window that takes in further records, and drops the oldest, still holds what it held. -/
theorem Held.take {max : ℕ} {l l' : List α} {i : ℤ} (h : Held key max l i)
    (hl : Falling key l) (hfalling : Falling key l')
    (hsub : ∀ x ∈ l, ∃ y ∈ l', key y = key x) : Held key max (l'.take max) i := by
  rcases h with ⟨x, hx, rfl⟩ | ⟨hfull, hall⟩
  · obtain ⟨y, hy, hkey⟩ := hsub x hx
    by_cases hin : y ∈ l'.take max
    · exact .inl ⟨y, hin, hkey⟩
    · have hdrop : y ∈ l'.drop max := by
        rw [← List.take_append_drop max l'] at hy
        exact (List.mem_append.1 hy).resolve_left hin
      refine .inr ⟨?_, fun z hz => ?_⟩
      · have hlt : max < l'.length := by
          by_contra hle
          rw [List.drop_eq_nil_of_le (not_lt.1 hle)] at hdrop
          exact absurd hdrop List.not_mem_nil
        rw [List.length_take, Nat.min_eq_left hlt.le]
      · rw [← List.take_append_drop max l'] at hfalling
        rw [← hkey]
        exact (List.pairwise_append.1 hfalling).2.2 z hz y hdrop
  · -- the records of the full window are `max` at least, and all of them newer
    have hkeys : l.map key ⊆ l'.map key := by
      intro j hj
      obtain ⟨x, hx, rfl⟩ := List.mem_map.1 hj
      obtain ⟨y, hy, hkey⟩ := hsub x hx
      exact List.mem_map.2 ⟨y, hy, hkey⟩
    have hlen : l.length ≤ l'.length := by
      have := (List.subperm_of_subset hl.nodup_keys hkeys).length_le
      rwa [List.length_map, List.length_map] at this
    refine .inr ⟨?_, fun z hz => ?_⟩
    · rw [List.length_take]
      omega
    · by_contra hle
      rw [hfalling.take_eq_filter] at hz
      obtain ⟨hmem, hrank⟩ := List.mem_filter.1 hz
      have hrank := of_decide_eq_true hrank
      -- all records of the full window would be newer than `z`
      have habove : l.map key ⊆ (l'.filter fun y => decide (key z < key y)).map key := by
        intro j hj
        obtain ⟨x, hx, rfl⟩ := List.mem_map.1 hj
        obtain ⟨y, hy, hkey⟩ := hsub x hx
        have hlt := hall x hx
        refine List.mem_map.2 ⟨y, List.mem_filter.2 ⟨hy, decide_eq_true ?_⟩, hkey⟩
        omega
      have hcount := (List.subperm_of_subset hl.nodup_keys habove).length_le
      rw [List.length_map, List.length_map, ← List.countP_eq_length_filter] at hcount
      unfold rank at hrank
      omega

end Ansible
