import Ansible.Lib.DateTime

/-!
# Date-times of Dart

`DateTime.parse(..).toUtc()` and `toIso8601String()`.  A date-time is a number of
microseconds since 1970.  Dart reads more forms than it writes: signs, years of up to six
digits, missing separators, times without seconds and dates alone.

## Main definitions

* `DartDateTime.parseUtc` — the instant a text denotes, `none` where Dart throws.
* `DartDateTime.toIso8601String` — the text of an instant in UTC.
* `DartDateTime.textOf` — the same with any writing of the fraction of a second.

## Main results

* `DartDateTime.exists_canonical` — the fields of a canonical UTC text.
* `DartDateTime.toIso8601String_parseUtc` — **a canonical UTC text is written as it was read.**
* `DartDateTime.Fields.parseUtc_textOf` — **every instant that Dart writes is read back.**
* `DartDateTime.Fields.fromIso8601_textOf` — the strict reader reads the years of four digits.
-/

namespace Ansible

namespace DartDateTime

open DateTime

/-! ### Reading -/

/-- An optional separator. -/
def skip (c : Char) : List Char → List Char
  | [] => []
  | x :: cs => if x = c then cs else x :: cs

/-- A year of `width` digits, a month and a day. -/
def dateOf (width : ℕ) (cs : List Char) : Option ((ℕ × ℕ × ℕ) × List Char) := do
  let (year, r) ← number width cs
  let (month, r) ← number 2 (skip '-' r)
  let (day, r) ← number 2 (skip '-' r)
  return ((year, month, day), r)

/-- An hour with optional minutes, seconds and microseconds, in microseconds. -/
def clockOf (cs : List Char) : Option (ℤ × List Char) := do
  let (hour, r) ← number 2 cs
  match number 2 (skip ':' r) with
  | none => return ((hour * 3600 : ℕ) * 1000000, r)
  | some (minute, r) =>
    match number 2 (skip ':' r) with
    | none => return ((hour * 3600 + minute * 60 : ℕ) * 1000000, r)
    | some (second, r) =>
      let (micro, r) ← fraction r
      return ((hour * 3600 + minute * 60 + second : ℕ) * 1000000 + micro, r)

/-- The offset of a zone in minutes; `some none` at the end of the text, where the time is
local. -/
def zoneOf (cs : List Char) : Option (Option ℤ) :=
  match cs with
  | [] => some none
  | cs =>
    match skip ' ' cs with
    | ['z'] | ['Z'] => some (some 0)
    | s :: r => do
      let sign : ℤ ← if s = '+' then some 1 else if s = '-' then some (-1) else none
      let (h, r) ← number 2 r
      match r with
      | [] => return some (sign * (h * 60))
      | r =>
        let (m, r) ← number 2 (skip ':' r)
        if r = [] then return some (sign * (h * 60 + m)) else none
    | [] => none

/-- The days before a date, a month beyond December counting on into later years. -/
def daysOf (year : ℤ) (month day : ℕ) : ℤ :=
  daysFromCivil (year + ((month : ℤ) - 1) / 12) (((month : ℤ) - 1) % 12 + 1).toNat 1 + (day - 1)

/-- The largest distance from 1970, in microseconds. -/
def limit : ℤ := 8640000000000000000

/-- A text whose year has `width` digits. -/
def parseWidth (toUtc : ℤ → ℤ) (sign : ℤ) (cs : List Char) (width : ℕ) : Option ℤ := do
  let ((year, month, day), r) ← dateOf width cs
  -- without a time the date is local midnight
  let days := daysOf (sign * year) month day * 86400000000
  match r with
  | [] => return toUtc days
  | c :: r =>
    if c = 'T' ∨ c = ' ' then
      let (clock, r) ← clockOf r
      match ← zoneOf r with
      | some zone => return days + clock - zone * 60000000
      | none => return toUtc (days + clock)
    else none

def signOf : List Char → ℤ × List Char
  | '+' :: r => (1, r)
  | '-' :: r => (-1, r)
  | r => (1, r)

/-- `DateTime.parse(s).toUtc()`; `toUtc` takes local times to UTC.  The pattern of Dart tries
the longest year first. -/
def parseUtc (toUtc : ℤ → ℤ) (s : String) : Option ℤ := do
  let (sign, cs) := signOf (chars s)
  let t ← [6, 5, 4].findSome? (parseWidth toUtc sign cs)
  if |t| ≤ limit then some t else none

/-! ### Writing -/

/-- The last `n` digits of a number. -/
def pad : ℕ → ℕ → List Char
  | 0, _ => []
  | n + 1, v => Nat.digitChar (v / 10 ^ n) :: pad n (v % 10 ^ n)

/-- A year of four digits, or signed with at least six. -/
def yearText (y : ℤ) : List Char :=
  if -9999 ≤ y ∧ y ≤ 9999 then (if y < 0 then ['-'] else []) ++ pad 4 y.natAbs
  else (if y < 0 then '-' else '+') ::
    (if 100000 ≤ y.natAbs then Nat.toDigits 10 y.natAbs else '0' :: Nat.toDigits 10 y.natAbs)

/-- Three digits of a second, or six when the microseconds are not zero. -/
def fractionText (micro : ℕ) : List Char :=
  pad 3 (micro / 1000) ++ if micro % 1000 = 0 then [] else pad 3 (micro % 1000)

/-- `toIso8601String()` of a date-time in UTC. -/
def toIso8601String (t : ℤ) : String :=
  let (y, m, d) := civilFromDays (t / 86400000000)
  let clock := (t % 86400000000).toNat
  let second := clock / 1000000
  String.ofList (yearText y ++ '-' :: pad 2 m ++ '-' :: pad 2 d ++ 'T' :: pad 2 (second / 3600)
    ++ ':' :: pad 2 (second / 60 % 60) ++ ':' :: pad 2 (second % 60)
    ++ '.' :: fractionText (clock % 1000000) ++ ['Z'])

example : parseUtc id "20260102T030405Z" = parseUtc id "2026-01-02 03:04:05+00" := by decide

/-! ### Digits -/

variable {c : Char} {d n v k : ℕ} {cs r : List Char}

theorem digit_eq_some (h : digit c = some d) : c = Nat.digitChar d ∧ d < 10 := by
  unfold digit at h
  split at h
  · next hc =>
    cases h
    simp only [Char.isDigit, Bool.and_eq_true, decide_eq_true_eq] at hc
    have h1 : 48 ≤ c.toNat := hc.1
    have h2 : c.toNat ≤ 57 := hc.2
    refine ⟨Char.toNat_inj.1 ?_, by omega⟩
    rw [Nat.toNat_digitChar_of_lt_ten (by omega)]
    omega
  · cases h

theorem digit_digitChar (h : d < 10) : digit (Nat.digitChar d) = some d := by
  interval_cases d <;> rfl

theorem isDigit_digitChar (h : d < 10) : (Nat.digitChar d).isDigit = true := by
  interval_cases d <;> rfl

theorem length_pad (n v : ℕ) : (pad n v).length = n := by
  induction n generalizing v with
  | zero => rfl
  | succ n ih => rw [pad, List.length_cons, ih]

theorem isDigit_of_mem_pad (hv : v < 10 ^ n) (hc : c ∈ pad n v) : c.isDigit = true := by
  induction n generalizing v with
  | zero => cases hc
  | succ n ih =>
    rw [pad, List.mem_cons] at hc
    rcases hc with rfl | hc
    · refine isDigit_digitChar ?_
      rw [Nat.div_lt_iff_lt_mul (by positivity)]
      rwa [pow_succ, Nat.mul_comm] at hv
    · exact ih (Nat.mod_lt v (by positivity)) hc

theorem drop_pad (h : n ≤ k) (v : ℕ) : (pad n v).drop k = [] :=
  List.drop_eq_nil_of_le (by rwa [length_pad])

theorem number_pad (h : v < 10 ^ n) (r : List Char) : number n (pad n v ++ r) = some (v, r) := by
  induction n generalizing v with
  | zero =>
    rw [pow_zero, Nat.lt_one_iff] at h
    rw [h]
    rfl
  | succ n ih =>
    have hd : v / 10 ^ n < 10 := by
      rw [Nat.div_lt_iff_lt_mul (by positivity)]
      rwa [pow_succ, Nat.mul_comm] at h
    rw [pad, List.cons_append, number, digit_digitChar hd]
    simp only [Option.bind_eq_bind, Option.bind_some, ih (Nat.mod_lt v (by positivity)),
      Option.pure_def, Option.some.injEq, Prod.mk.injEq, and_true]
    exact Nat.div_add_mod' v (10 ^ n)

theorem number_eq_some (h : number n cs = some (v, r)) : cs = pad n v ++ r ∧ v < 10 ^ n := by
  induction n generalizing cs v with
  | zero =>
    cases h
    exact ⟨rfl, by simp⟩
  | succ n ih =>
    cases cs with
    | nil => cases h
    | cons c cs =>
      simp only [number, Option.bind_eq_bind, Option.bind_eq_some_iff, Option.pure_def,
        Option.some.injEq, Prod.mk.injEq, Prod.exists] at h
      obtain ⟨d, hd, v', r', hrest, rfl, rfl⟩ := h
      obtain ⟨rfl, hd10⟩ := digit_eq_some hd
      obtain ⟨rfl, hv⟩ := ih hrest
      refine ⟨?_, ?_⟩
      · rw [pad, Nat.add_comm, Nat.add_mul_div_right v' d (by positivity), Nat.div_eq_of_lt hv,
          Nat.zero_add, Nat.add_mul_mod_self_right, Nat.mod_eq_of_lt hv]
        rfl
      · rw [pow_succ]
        have : d * 10 ^ n ≤ 9 * 10 ^ n := Nat.mul_le_mul_right _ (by omega)
        omega

theorem exists_pad (ds : List Char) (h : ∀ c ∈ ds, c.isDigit = true) :
    ∃ v, v < 10 ^ ds.length ∧ ds = pad ds.length v := by
  induction ds with
  | nil => exact ⟨0, by simp, rfl⟩
  | cons c ds ih =>
    obtain ⟨v, hv, hds⟩ := ih fun c hc => h c (List.mem_cons_of_mem _ hc)
    have hc : digit c = some (c.toNat - 48) := if_pos (h c List.mem_cons_self)
    have hn : number (ds.length + 1) (c :: ds)
        = some ((c.toNat - 48) * 10 ^ ds.length + v, []) := by
      have hrest : number ds.length ds = some (v, []) := by
        have := number_pad hv []
        rwa [List.append_nil, ← hds] at this
      rw [number, hc]
      simp [hrest]
    obtain ⟨heq, hlt⟩ := number_eq_some hn
    rw [List.append_nil] at heq
    exact ⟨_, hlt, heq⟩

theorem number_pad_stop (hc : c.isDigit = false) (hv : v < 10 ^ n) (r : List Char) :
    number (n + k + 1) (pad n v ++ c :: r) = none := by
  induction n generalizing v with
  | zero =>
    have hd : digit c = none := if_neg (by rw [hc]; decide)
    rw [pad, List.nil_append, Nat.zero_add, number, hd]
    rfl
  | succ n ih =>
    have hd : v / 10 ^ n < 10 := by
      rw [Nat.div_lt_iff_lt_mul (by positivity)]
      rwa [pow_succ, Nat.mul_comm] at hv
    rw [pad, List.cons_append, show n + 1 + k + 1 = (n + k + 1) + 1 by omega, number,
      digit_digitChar hd]
    simp [ih (Nat.mod_lt v (by positivity))]

theorem pad_add (h : v < 10 ^ (n + k)) :
    pad (n + k) v = pad n (v / 10 ^ k) ++ pad k (v % 10 ^ k) := by
  induction n generalizing v with
  | zero =>
    rw [Nat.zero_add] at h ⊢
    rw [pad, List.nil_append, Nat.mod_eq_of_lt h]
  | succ n ih =>
    have hsplit : n + 1 + k = (n + k) + 1 := by omega
    have hhead : v / 10 ^ (n + k) = v / 10 ^ k / 10 ^ n := by
      rw [Nat.div_div_eq_div_mul, Nat.add_comm, pow_add]
    have htail : v % 10 ^ (n + k) / 10 ^ k = v / 10 ^ k % 10 ^ n := by
      rw [Nat.add_comm, pow_add, Nat.mod_mul_right_div_self]
    have hlast : v % 10 ^ (n + k) % 10 ^ k = v % 10 ^ k :=
      Nat.mod_mod_of_dvd v (pow_dvd_pow 10 (Nat.le_add_left k n))
    rw [hsplit, pad, ih (Nat.mod_lt v (by positivity)), pad, List.cons_append, hhead, htail, hlast]

/-! ### Canonical texts -/

/-- The fields of a canonical UTC text: a valid date and time and the digits of a fraction. -/
structure Canonical (s : String) (t : ℤ) (year month day hour minute second : ℕ)
    (ds : List Char) (micro : ℕ) : Prop where
  text : chars s = pad 4 year ++ '-' :: (pad 2 month ++ '-' :: (pad 2 day ++ 'T' ::
    (pad 2 hour ++ ':' :: (pad 2 minute ++ ':' :: (pad 2 second ++ '.' :: (ds ++ ['Z']))))))
  year_lt : year < 10000
  month_pos : 1 ≤ month
  month_le : month ≤ 12
  day_pos : 1 ≤ day
  day_le : day ≤ daysInMonth year month
  hour_lt : hour < 24
  minute_lt : minute < 60
  second_lt : second < 60
  micro_lt : micro < 1000000
  fraction : ∀ r, fraction ('.' :: (ds ++ 'Z' :: r)) = some (micro, 'Z' :: r)
  written : fractionText micro = ds
  instant : t = (daysFromCivil year month day * 86400
    + (hour * 3600 + minute * 60 + second : ℕ)) * 1000000 + micro

/-- The shape of a text: its digits all read as zero. -/
def mask (c : Char) : Char := if c.isDigit then '0' else c

theorem mask_eq_zero : mask c = '0' ↔ c.isDigit = true := by
  unfold mask
  split_ifs with h
  · simp [h]
  · simp only [h]
    constructor
    · rintro rfl
      exact absurd (by decide) h
    · intro hc
      cases hc

theorem mask_eq {x : Char} (hx : x.isDigit = false) (hne : x ≠ '0') : mask c = x ↔ c = x := by
  unfold mask
  split_ifs with h
  · constructor
    · intro h0
      exact absurd h0.symm hne
    · rintro rfl
      rw [hx] at h
      cases h
  · exact Iff.rfl

theorem exists_fraction (h : cs.map mask = '.' :: (List.replicate n '0' ++ ['Z'])) :
    ∃ ds : List Char, cs = '.' :: (ds ++ ['Z']) ∧ ds.length = n ∧ ∀ c ∈ ds, c.isDigit = true := by
  obtain ⟨c, cs, rfl, hc, h⟩ := List.map_eq_cons_iff.1 h
  obtain ⟨ds, zs, rfl, hds, hzs⟩ := List.map_eq_append_iff.1 h
  obtain ⟨z, zs, rfl, hz, hnil⟩ := List.map_eq_cons_iff.1 hzs
  obtain rfl := List.map_eq_nil_iff.1 hnil
  obtain rfl := (mask_eq (by decide) (by decide)).1 hc
  obtain rfl := (mask_eq (by decide) (by decide)).1 hz
  obtain ⟨hlen, hall⟩ := List.eq_replicate_iff.1 hds
  rw [List.length_map] at hlen
  exact ⟨ds, rfl, hlen, fun c hc => mask_eq_zero.1 (hall _ (List.mem_map_of_mem hc))⟩

theorem fraction_digits {ds : List Char} (h : ∀ c ∈ ds, c.isDigit = true) (hne : ds ≠ [])
    {micro : ℕ} (hsix : number 6 ((ds ++ List.replicate 6 '0').take 6) = some (micro, []))
    (r : List Char) : fraction ('.' :: (ds ++ 'Z' :: r)) = some (micro, 'Z' :: r) := by
  have htake : (ds ++ 'Z' :: r).takeWhile Char.isDigit = ds := by
    rw [List.takeWhile_append_of_pos h, List.takeWhile_cons_of_neg (by decide), List.append_nil]
  have hdrop : (ds ++ 'Z' :: r).dropWhile Char.isDigit = 'Z' :: r := by
    rw [List.dropWhile_append_of_pos h, List.dropWhile_cons_of_neg (by decide)]
  simp only [fraction, htake, hdrop, if_neg hne, hsix, Option.map_some]

theorem fraction_three {ds : List Char} (h : ∀ c ∈ ds, c.isDigit = true) (hlen : ds.length = 3) :
    ∃ micro, micro < 1000000 ∧ fractionText micro = ds ∧
      ∀ r, fraction ('.' :: (ds ++ 'Z' :: r)) = some (micro, 'Z' :: r) := by
  obtain ⟨v, hv, hds⟩ := exists_pad ds h
  rw [hlen] at hv hds
  have hsix : (ds ++ List.replicate 6 '0').take 6 = pad 6 (v * 1000) := by
    have hpad : pad (3 + 3) (v * 1000) = pad 3 v ++ pad 3 0 := by
      rw [pad_add (by omega)]
      have h1 : v * 1000 / 10 ^ 3 = v := by omega
      have h2 : v * 1000 % 10 ^ 3 = 0 := by omega
      rw [h1, h2]
    rw [hpad, List.take_append, hlen, List.take_of_length_le (by omega), ← hds]
    rfl
  refine ⟨v * 1000, by omega, ?_, fun r => fraction_digits h ?_ ?_ r⟩
  · rw [fractionText, if_pos (by omega), List.append_nil, hds, Nat.mul_div_cancel v (by omega)]
  · rintro rfl
    cases hlen
  · rw [hsix]
    have := number_pad (n := 6) (v := v * 1000) (by omega) []
    rwa [List.append_nil] at this

/-- Six digits of a fraction, the last three not all zero. -/
theorem fraction_six {ds : List Char} (h : ∀ c ∈ ds, c.isDigit = true) (hlen : ds.length = 6)
    (hne : ds.drop 3 ≠ ['0', '0', '0']) :
    ∃ micro, micro < 1000000 ∧ fractionText micro = ds ∧
      ∀ r, fraction ('.' :: (ds ++ 'Z' :: r)) = some (micro, 'Z' :: r) := by
  obtain ⟨v, hv, hds⟩ := exists_pad ds h
  rw [hlen] at hv hds
  have hsplit : ds = pad 3 (v / 1000) ++ pad 3 (v % 1000) := by
    rw [hds]
    exact pad_add (n := 3) (k := 3) (by omega)
  have hlast : v % 1000 ≠ 0 := by
    intro h0
    apply hne
    rw [hsplit, h0, List.drop_append_of_le_length (by rw [length_pad]), List.drop_eq_nil_of_le]
    · rfl
    · rw [length_pad]
  refine ⟨v, by omega, ?_, fun r => fraction_digits h ?_ ?_ r⟩
  · rw [fractionText, if_neg hlast, hsplit]
  · rintro rfl
    cases hlen
  · rw [List.take_append, hlen, List.take_of_length_le (by omega), Nat.sub_self, List.take_zero,
      List.append_nil, hds]
    have := number_pad (n := 6) (v := v) (by omega) []
    rwa [List.append_nil] at this

theorem sep_cons {seps : List Char} (h : c ∈ seps) (r : List Char) :
    sep seps (c :: r) = some r := if_pos h

theorem sep_eq_some {seps : List Char} (h : sep seps cs = some r) : ∃ c ∈ seps, cs = c :: r := by
  unfold sep at h
  split at h
  · split at h
    · next hc =>
      cases h
      exact ⟨_, hc, rfl⟩
    · cases h
  · cases h

/-- The fields of an unsigned date-time. -/
theorem unsigned_eq_some {t off : ℤ} (h : unsigned 1 cs = some (t, off)) :
    ∃ year month day hour minute second micro : ℕ, ∃ T r r',
      cs = pad 4 year ++ '-' :: (pad 2 month ++ '-' :: (pad 2 day ++ T ::
        (pad 2 hour ++ ':' :: (pad 2 minute ++ ':' :: (pad 2 second ++ r))))) ∧
      year < 10000 ∧ T ∈ ['T', ' '] ∧ fraction r = some (micro, r') ∧ offset r' = some off ∧
      1 ≤ month ∧ month ≤ 12 ∧ 1 ≤ day ∧ day ≤ daysInMonth year month ∧ hour < 24 ∧ minute < 60 ∧
      second < 60 ∧ t = (daysFromCivil year month day * 86400
        + (hour * 3600 + minute * 60 + second : ℕ) - off) * 1000000 + micro := by
  obtain ⟨⟨year, r₁⟩, h₁, g0⟩ := Option.bind_eq_some_iff.1 h
  obtain ⟨r₂, h₂, g1⟩ := Option.bind_eq_some_iff.1 g0
  obtain ⟨⟨month, r₃⟩, h₃, g2⟩ := Option.bind_eq_some_iff.1 g1
  obtain ⟨r₄, h₄, g3⟩ := Option.bind_eq_some_iff.1 g2
  obtain ⟨⟨day, r₅⟩, h₅, g4⟩ := Option.bind_eq_some_iff.1 g3
  obtain ⟨r₆, h₆, g5⟩ := Option.bind_eq_some_iff.1 g4
  obtain ⟨⟨hour, r₇⟩, h₇, g6⟩ := Option.bind_eq_some_iff.1 g5
  obtain ⟨r₈, h₈, g7⟩ := Option.bind_eq_some_iff.1 g6
  obtain ⟨⟨minute, r₉⟩, h₉, g8⟩ := Option.bind_eq_some_iff.1 g7
  obtain ⟨r₁₀, h₁₀, g9⟩ := Option.bind_eq_some_iff.1 g8
  obtain ⟨⟨second, r₁₁⟩, h₁₁, g10⟩ := Option.bind_eq_some_iff.1 g9
  obtain ⟨⟨micro, r₁₂⟩, h₁₂, g11⟩ := Option.bind_eq_some_iff.1 g10
  obtain ⟨off', h₁₃, g⟩ := Option.bind_eq_some_iff.1 g11
  obtain ⟨rfl, hyear⟩ := number_eq_some h₁
  obtain ⟨c₂, hc₂, rfl⟩ := sep_eq_some h₂
  obtain ⟨rfl, -⟩ := number_eq_some h₃
  obtain ⟨c₄, hc₄, rfl⟩ := sep_eq_some h₄
  obtain ⟨rfl, -⟩ := number_eq_some h₅
  obtain ⟨c₆, hc₆, rfl⟩ := sep_eq_some h₆
  obtain ⟨rfl, -⟩ := number_eq_some h₇
  obtain ⟨c₈, hc₈, rfl⟩ := sep_eq_some h₈
  obtain ⟨rfl, -⟩ := number_eq_some h₉
  obtain ⟨c₁₀, hc₁₀, rfl⟩ := sep_eq_some h₁₀
  obtain ⟨rfl, -⟩ := number_eq_some h₁₁
  obtain rfl := List.mem_singleton.1 hc₂
  obtain rfl := List.mem_singleton.1 hc₄
  obtain rfl := List.mem_singleton.1 hc₈
  obtain rfl := List.mem_singleton.1 hc₁₀
  dsimp only at g
  split at g
  · next hv =>
    cases g
    rw [one_mul] at hv ⊢
    obtain ⟨hm, hm', hd, hd', hh, hmi, hs⟩ := hv
    exact ⟨year, month, day, hour, minute, second, micro, c₆, r₁₁, r₁₂, rfl, hyear, hc₆, h₁₂, h₁₃,
      hm, hm', hd, hd', hh, hmi, hs, rfl⟩
  · cases g

theorem map_mask_pad (h : v < 10 ^ n) : (pad n v).map mask = List.replicate n '0' := by
  induction n generalizing v with
  | zero => rfl
  | succ n ih =>
    have hd : v / 10 ^ n < 10 := by
      rw [Nat.div_lt_iff_lt_mul (by positivity)]
      rwa [pow_succ, Nat.mul_comm] at h
    rw [pad, List.map_cons, ih (Nat.mod_lt v (by positivity)),
      mask_eq_zero.2 (isDigit_digitChar hd), List.replicate_succ]

theorem fromIso8601_canonical {s : String} (hc : isCanonical s = true) :
    fromIso8601 s = unsigned 1 (chars s) := by
  have hhead : ((chars s).map mask).head? = some '0' := by
    unfold isCanonical at hc
    dsimp only at hc
    rw [Bool.or_eq_true, Bool.and_eq_true, beq_iff_eq, beq_iff_eq] at hc
    rcases hc with h | ⟨h, -⟩
    · exact congrArg List.head? h
    · exact congrArg List.head? h
  unfold fromIso8601
  split
  · next h =>
    rw [h] at hhead
    cases hhead
  · next h =>
    rw [h] at hhead
    cases hhead
  · rfl

/-- **The fields of a canonical UTC text.** -/
theorem exists_canonical {s : String} {t : ℤ} (hc : isCanonical s = true)
    (h : fromIso8601 s = some (t, 0)) :
    ∃ year month day hour minute second ds micro,
      Canonical s t year month day hour minute second ds micro := by
  rw [fromIso8601_canonical hc] at h
  obtain ⟨year, month, day, hour, minute, second, micro, T, r, r', htext, hyear, -, hfrac, -, hm,
    hm', hd, hd', hh, hmi, hs, rfl⟩ := unsigned_eq_some h
  have h31 : daysInMonth (year : ℤ) month ≤ 31 := by
    unfold daysInMonth
    split_ifs <;> omega
  have hmask : (chars s).map mask = ['0', '0', '0', '0', '-', '0', '0', '-', '0', '0', mask T,
      '0', '0', ':', '0', '0', ':', '0', '0'] ++ r.map mask := by
    rw [htext]
    simp only [List.map_append, List.map_cons, map_mask_pad (n := 4) (v := year) (by omega),
      map_mask_pad (n := 2) (v := month) (by omega), map_mask_pad (n := 2) (v := day) (by omega),
      map_mask_pad (n := 2) (v := hour) (by omega), map_mask_pad (n := 2) (v := minute) (by omega),
      map_mask_pad (n := 2) (v := second) (by omega)]
    rfl
  -- a fraction has three digits, or six whose last three are not zeros
  have hshape : ∃ ds, mask T = 'T' ∧ r = '.' :: (ds ++ ['Z']) ∧ fractionText micro = ds ∧
      micro < 1000000 ∧ ∀ r, fraction ('.' :: (ds ++ 'Z' :: r)) = some (micro, 'Z' :: r) := by
    unfold isCanonical at hc
    dsimp only at hc
    rw [Bool.or_eq_true, Bool.and_eq_true, beq_iff_eq, beq_iff_eq, bne_iff_ne] at hc
    rcases hc with h3 | ⟨h6, hne⟩
    · have h3' : ['0', '0', '0', '0', '-', '0', '0', '-', '0', '0', mask T, '0', '0', ':', '0', '0',
          ':', '0', '0'] ++ r.map mask = ['0', '0', '0', '0', '-', '0', '0', '-', '0', '0', 'T',
          '0', '0', ':', '0', '0', ':', '0', '0', '.', '0', '0', '0', 'Z'] := hmask.symm.trans h3
      simp only [List.cons_append, List.cons.injEq, List.nil_append, true_and] at h3'
      obtain ⟨ds, rfl, hlen, hall⟩ := exists_fraction (n := 3) h3'.2
      obtain ⟨micro', hlt, hwritten, hread⟩ := fraction_three hall hlen
      obtain ⟨rfl, -⟩ := Prod.mk.inj (Option.some.inj ((hread []).symm.trans hfrac))
      exact ⟨ds, h3'.1, rfl, hwritten, hlt, hread⟩
    · have h6' : ['0', '0', '0', '0', '-', '0', '0', '-', '0', '0', mask T, '0', '0', ':', '0', '0',
          ':', '0', '0'] ++ r.map mask = ['0', '0', '0', '0', '-', '0', '0', '-', '0', '0', 'T',
          '0', '0', ':', '0', '0', ':', '0', '0', '.', '0', '0', '0', '0', '0', '0', 'Z'] :=
        hmask.symm.trans h6
      simp only [List.cons_append, List.cons.injEq, List.nil_append, true_and] at h6'
      obtain ⟨ds, rfl, hlen, hall⟩ := exists_fraction (n := 6) h6'.2
      have hlast : ((chars s).drop 23).take 3 = ds.drop 3 := by
        have htake : (ds.drop 3).take 3 = ds.drop 3 :=
          List.take_of_length_le (by rw [List.length_drop]; omega)
        rw [htext]
        simp (disch := omega) [List.drop_append, List.take_append, length_pad, drop_pad, hlen,
          htake]
      obtain ⟨micro', hlt, hwritten, hread⟩ := fraction_six hall hlen (hlast ▸ hne)
      obtain ⟨rfl, -⟩ := Prod.mk.inj (Option.some.inj ((hread []).symm.trans hfrac))
      exact ⟨ds, h6'.1, rfl, hwritten, hlt, hread⟩
  obtain ⟨ds, hT, rfl, hwritten, hlt, hread⟩ := hshape
  obtain rfl := (mask_eq (by decide) (by decide)).1 hT
  refine ⟨year, month, day, hour, minute, second, ds, micro, ?_⟩
  exact ⟨htext, hyear, hm, hm', hd, hd', hh, hmi, hs, hlt, hread, hwritten, by rw [sub_zero]⟩

/-! ### The round trip -/

/-- The day and the time of day of an instant. -/
theorem instant_split (days : ℤ) {second micro : ℕ} (hs : second < 86400)
    (hm : micro < 1000000) :
    ((days * 86400 + second) * 1000000 + micro) / 86400000000 = days ∧
      (((days * 86400 + second) * 1000000 + micro) % 86400000000).toNat
        = second * 1000000 + micro := by
  omega

theorem second_split (second : ℕ) {micro : ℕ} (hm : micro < 1000000) :
    (second * 1000000 + micro) / 1000000 = second ∧
      (second * 1000000 + micro) % 1000000 = micro := by
  omega

theorem clock_split (hour : ℕ) {minute second : ℕ} (hm : minute < 60) (hs : second < 60) :
    (hour * 3600 + minute * 60 + second) / 3600 = hour ∧
      (hour * 3600 + minute * 60 + second) / 60 % 60 = minute ∧
      (hour * 3600 + minute * 60 + second) % 60 = second := by
  have : (hour * 3600 + minute * 60 + second) / 60 = hour * 60 + minute := by omega
  omega

/-- A date, its year of `width` digits. -/
theorem dateOf_pad {width year month day : ℕ} (hy : year < 10 ^ width) (hm : month < 100)
    (hd : day < 100) (r : List Char) :
    dateOf width (pad width year ++ '-' :: (pad 2 month ++ '-' :: (pad 2 day ++ r)))
      = some ((year, month, day), r) := by
  rw [dateOf, number_pad hy]
  simp only [Option.bind_eq_bind, Option.bind_some, skip, if_true]
  rw [number_pad (by omega)]
  simp only [Option.bind_some, if_true]
  rw [number_pad (by omega)]
  rfl

/-- A time, and what is left after its fraction. -/
theorem clockOf_pad {hour minute second micro : ℕ} {r' : List Char} (hh : hour < 24)
    (hmi : minute < 60) (hs : second < 60) (hfrac : DateTime.fraction r = some (micro, r')) :
    clockOf (pad 2 hour ++ ':' :: (pad 2 minute ++ ':' :: (pad 2 second ++ r)))
      = some (((hour * 3600 + minute * 60 + second : ℕ) : ℤ) * 1000000 + micro, r') := by
  rw [clockOf, number_pad (by omega)]
  simp only [Option.bind_eq_bind, Option.bind_some, skip, if_true]
  rw [number_pad (by omega)]
  simp only [if_true]
  rw [number_pad (by omega)]
  simp only [hfrac]
  rfl

theorem daysOf_of_month (year : ℤ) {month day : ℕ} (hm : 1 ≤ month) (hm' : month ≤ 12)
    (hd : 1 ≤ day) : daysOf year month day = daysFromCivil year month day := by
  have h1 : ((month : ℤ) - 1) / 12 = 0 := by omega
  have h2 : (((month : ℤ) - 1) % 12 + 1).toNat = month := by omega
  rw [daysOf, h1, h2, add_zero, daysFromCivil, daysFromCivil]
  omega

section RoundTrip

variable {s : String} {t : ℤ} {year month day hour minute second : ℕ} {ds : List Char} {micro : ℕ}
  (h : Canonical s t year month day hour minute second ds micro)
include h

theorem Canonical.day_lt : day < 100 := by
  have hday := h.day_le
  unfold daysInMonth at hday
  split_ifs at hday <;> omega

theorem Canonical.daysOf_eq : daysOf year month day = daysFromCivil year month day :=
  daysOf_of_month year h.month_pos h.month_le h.day_pos

theorem Canonical.dateOf_text : dateOf 4 (chars s) = some ((year, month, day), 'T' ::
    (pad 2 hour ++ ':' :: (pad 2 minute ++ ':' :: (pad 2 second ++ '.' :: (ds ++ ['Z']))))) := by
  have hm := h.month_le
  rw [h.text, dateOf_pad h.year_lt (by omega) h.day_lt]

theorem Canonical.clockOf_text :
    clockOf (pad 2 hour ++ ':' :: (pad 2 minute ++ ':' :: (pad 2 second ++ '.' :: (ds ++ ['Z']))))
      = some (((hour * 3600 + minute * 60 + second : ℕ) : ℤ) * 1000000 + micro, ['Z']) :=
  clockOf_pad h.hour_lt h.minute_lt h.second_lt (h.fraction [])

theorem Canonical.parseWidth_four (toUtc : ℤ → ℤ) : parseWidth toUtc 1 (chars s) 4 = some t := by
  rw [parseWidth, h.dateOf_text]
  simp only [Option.bind_eq_bind, Option.bind_some, true_or, if_true, h.clockOf_text]
  have hz : zoneOf ['Z'] = some (some 0) := by decide
  simp only [hz, Option.bind_some, one_mul, h.daysOf_eq, h.instant, Option.pure_def,
    Option.some.injEq]
  ring

theorem Canonical.parseWidth_wide (toUtc : ℤ → ℤ) (k : ℕ) :
    parseWidth toUtc 1 (chars s) (4 + k + 1) = none := by
  rw [parseWidth, dateOf, h.text, number_pad_stop (by decide) h.year_lt]
  rfl

theorem Canonical.days_bounds : -1000000 ≤ daysFromCivil year month day ∧
    daysFromCivil year month day < 10000000 := by
  have hy := h.year_lt
  have hm := h.month_pos
  have hm' := h.month_le
  have hd := h.day_pos
  have hd' := h.day_lt
  unfold daysFromCivil
  dsimp only
  split_ifs <;> omega

theorem Canonical.head_isDigit (r : List Char) (hc : chars s = c :: r) : c.isDigit = true := by
  have hd : year / 10 ^ 3 < 10 := by
    have := h.year_lt
    omega
  have htext := hc.symm.trans h.text
  rw [pad, List.cons_append, List.cons.injEq] at htext
  rw [htext.1]
  exact isDigit_digitChar hd

/-- **A canonical text is read as its instant.** -/
theorem Canonical.parseUtc_eq (toUtc : ℤ → ℤ) : parseUtc toUtc s = some t := by
  have hsign : signOf (chars s) = (1, chars s) := by
    unfold signOf
    split
    · next hs => exact absurd (h.head_isDigit _ hs) (by decide)
    · next hs => exact absurd (h.head_isDigit _ hs) (by decide)
    · rfl
  obtain ⟨hlow, hhigh⟩ := h.days_bounds
  have hlimit : |t| ≤ limit := by
    have hh := h.hour_lt
    have hmi := h.minute_lt
    have hs := h.second_lt
    have hmicro := h.micro_lt
    have hinstant := h.instant
    have hsec : hour * 3600 + minute * 60 + second < 86400 := by omega
    generalize hour * 3600 + minute * 60 + second = clock at hinstant hsec
    rw [abs_le, limit]
    omega
  rw [parseUtc, hsign]
  simp only [List.findSome?_cons, h.parseWidth_wide toUtc 1, h.parseWidth_wide toUtc 0,
    h.parseWidth_four, Option.bind_eq_bind, Option.bind_some, if_pos hlimit]

/-- **The instant of a canonical text is written as the text.** -/
theorem Canonical.toIso8601String_eq : toIso8601String t = s := by
  have hh := h.hour_lt
  have hmi := h.minute_lt
  have hs := h.second_lt
  have hmicro := h.micro_lt
  have hyear := h.year_lt
  obtain ⟨hhour, hminute, hsec⟩ := clock_split hour hmi hs
  obtain ⟨hsecond, hfrac⟩ := second_split (hour * 3600 + minute * 60 + second) hmicro
  obtain ⟨hdays, hclock⟩ := instant_split (daysFromCivil year month day)
    (show hour * 3600 + minute * 60 + second < 86400 by omega) hmicro
  rw [← h.instant] at hdays hclock
  have hyt : yearText (year : ℤ) = pad 4 year := by
    rw [yearText, if_pos (by omega), if_neg (by omega), Int.natAbs_natCast, List.nil_append]
  have hcivil := civilFromDays_daysFromCivil h.month_pos h.month_le h.day_pos h.day_le
  simp only [toIso8601String, hdays, hcivil, hclock, hsecond, hfrac, hhour, hminute, hsec, hyt,
    h.written]
  refine String.toList_inj.1 ?_
  rw [String.toList_ofList, ← chars_eq_toList, h.text]
  simp

end RoundTrip

/-- **A canonical UTC text is written as it was read.** -/
theorem toIso8601String_parseUtc {s : String} (hc : isCanonical s = true)
    (h : (fromIso8601 s).any (·.2 == 0) = true) (toUtc : ℤ → ℤ) :
    ∃ t, parseUtc toUtc s = some t ∧ toIso8601String t = s := by
  cases hf : fromIso8601 s with
  | none =>
    rw [hf] at h
    cases h
  | some p =>
    obtain ⟨t, off⟩ := p
    rw [hf] at h
    obtain rfl : off = 0 := by simpa using h
    obtain ⟨_, _, _, _, _, _, _, _, hform⟩ := exists_canonical hc hf
    exact ⟨t, hform.parseUtc_eq toUtc, hform.toIso8601String_eq⟩

/-! ### Every instant is read back -/

/-- The text of an instant, its fraction of a second written as `frac`. -/
def textOf (t : ℤ) (frac : Text) : Text :=
  let (y, m, d) := civilFromDays (t / 86400000000)
  let second := (t % 86400000000).toNat / 1000000
  yearText y ++ '-' :: (pad 2 m ++ '-' :: (pad 2 d ++ 'T' :: (pad 2 (second / 3600) ++
    ':' :: (pad 2 (second / 60 % 60) ++ ':' :: (pad 2 (second % 60) ++ (frac ++ ['Z']))))))

theorem toIso8601String_eq_textOf (t : ℤ) : toIso8601String t = String.ofList
    (textOf t ('.' :: fractionText ((t % 86400000000).toNat % 1000000))) := by
  simp [toIso8601String, textOf]

/-- The fields that an instant is written with. -/
structure Fields (t y : ℤ) (month day hour minute second : ℕ) : Prop where
  year : (civilFromDays (t / 86400000000)).1 = y
  month_pos : 1 ≤ month
  month_le : month ≤ 12
  day_pos : 1 ≤ day
  day_le : day ≤ daysInMonth y month
  hour_lt : hour < 24
  minute_lt : minute < 60
  second_lt : second < 60
  seconds : t / 1000000
    = daysFromCivil y month day * 86400 + (hour * 3600 + minute * 60 + second : ℕ)
  text : ∀ frac, textOf t frac = yearText y ++ '-' :: (pad 2 month ++ '-' :: (pad 2 day ++
    'T' :: (pad 2 hour ++ ':' :: (pad 2 minute ++ ':' :: (pad 2 second ++ (frac ++ ['Z']))))))

theorem exists_fields (t : ℤ) : ∃ y month day hour minute second,
    Fields t y month day hour minute second := by
  obtain ⟨y, m, d, hcivil, hm, hm', hd, hd', hdays⟩ :=
    daysFromCivil_civilFromDays (t / 86400000000)
  refine ⟨y, m, d, (t % 86400000000).toNat / 1000000 / 3600,
    (t % 86400000000).toNat / 1000000 / 60 % 60, (t % 86400000000).toNat / 1000000 % 60,
    by rw [hcivil], hm, hm', hd, hd', by omega, by omega, by omega, ?_, fun frac => ?_⟩
  · rw [hdays]
    omega
  · rw [textOf, hcivil]

theorem pad_eq_toDigits (h : 10 ^ k ≤ n) (h' : n < 10 ^ (k + 1)) :
    pad (k + 1) n = Nat.toDigits 10 n := by
  induction k generalizing n with
  | zero =>
    rw [Nat.toDigits_of_lt_base (by simpa using h')]
    simp [pad]
  | succ k ih =>
    have hlow : 10 ^ k ≤ n / 10 := by
      rw [Nat.le_div_iff_mul_le (by decide), ← pow_succ]
      exact h
    have hhigh : n / 10 < 10 ^ (k + 1) := by
      rw [Nat.div_lt_iff_lt_mul (by decide), ← pow_succ]
      exact h'
    have hten : ¬ n < 10 := by
      have := Nat.one_le_pow k 10 (by decide)
      omega
    rw [pad_add (n := k + 1) (k := 1) h', pow_one, ih hlow hhigh, Nat.toDigits_eq_if (by decide)
      (n := n), if_neg hten]
    simp [pad]

/-- A year is four digits, which may follow a minus, or a sign and six digits. -/
theorem yearText_eq {y : ℤ} (h : y.natAbs < 1000000) :
    (0 ≤ y ∧ y ≤ 9999 ∧ yearText y = pad 4 y.natAbs) ∨
    (-9999 ≤ y ∧ y < 0 ∧ yearText y = '-' :: pad 4 y.natAbs) ∨
    (9999 < y ∧ yearText y = '+' :: pad 6 y.natAbs) ∨
    (y < -9999 ∧ yearText y = '-' :: pad 6 y.natAbs) := by
  have hsix : 10000 ≤ y.natAbs → (if 100000 ≤ y.natAbs then Nat.toDigits 10 y.natAbs
      else '0' :: Nat.toDigits 10 y.natAbs) = pad 6 y.natAbs := by
    intro hlow
    split_ifs with hbig
    · exact (pad_eq_toDigits (k := 5) (by omega) (by omega)).symm
    · have hhead : pad 6 y.natAbs
          = Nat.digitChar (y.natAbs / 10 ^ 5) :: pad 5 (y.natAbs % 10 ^ 5) := rfl
      have hzero : y.natAbs / 10 ^ 5 = 0 := Nat.div_eq_of_lt (by omega)
      have hrest : y.natAbs % 10 ^ 5 = y.natAbs := Nat.mod_eq_of_lt (by omega)
      rw [hhead, hzero, hrest, pad_eq_toDigits (k := 4) (by omega) (by omega)]
      rfl
  unfold yearText
  rcases lt_or_ge y (-9999) with h1 | h1
  · right; right; right
    rw [if_neg (by omega), if_pos (by omega), hsix (by omega)]
    exact ⟨h1, rfl⟩
  rcases lt_or_ge y 0 with h2 | h2
  · right; left
    rw [if_pos (by omega), if_pos h2]
    exact ⟨h1, h2, rfl⟩
  rcases lt_or_ge 9999 y with h3 | h3
  · right; right; left
    rw [if_neg (by omega), if_neg (by omega), hsix (by omega)]
    exact ⟨h3, rfl⟩
  · left
    rw [if_pos (by omega), if_neg (by omega)]
    exact ⟨h2, h3, rfl⟩

section Fields

variable {t y : ℤ} {month day hour minute second micro : ℕ} {frac : Text}
  (h : Fields t y month day hour minute second)
include h

theorem Fields.day_lt : day < 100 := by
  have hday := h.day_le
  unfold daysInMonth at hday
  split_ifs at hday <;> omega

theorem Fields.natAbs_year_lt (ht : |t| ≤ limit) : y.natAbs < 1000000 := by
  have hseconds := h.seconds
  have hhour := h.hour_lt
  have hminute := h.minute_lt
  have hsecond := h.second_lt
  have hday := h.day_lt
  have hmonth := h.month_le
  rw [abs_le, limit] at ht
  have hclock : hour * 3600 + minute * 60 + second < 86400 := by omega
  generalize hour * 3600 + minute * 60 + second = clock at hseconds hclock
  have hdays : -200000000 ≤ daysFromCivil y month day ∧ daysFromCivil y month day ≤ 200000000 := by
    omega
  unfold daysFromCivil at hdays
  dsimp only at hdays
  split_ifs at hdays <;> omega

/-- What follows the year. -/
theorem Fields.parseWidth_eq (toUtc : ℤ → ℤ) (sign : ℤ) {width year : ℕ}
    (hyear : year < 10 ^ width) (hy : sign * year = y)
      (hfrac : DateTime.fraction (frac ++ ['Z']) = some (micro, ['Z'])) :
    parseWidth toUtc sign (pad width year ++ '-' :: (pad 2 month ++ '-' :: (pad 2 day ++ 'T' ::
      (pad 2 hour ++ ':' :: (pad 2 minute ++ ':' :: (pad 2 second ++ (frac ++ ['Z']))))))) width
      = some (t / 1000000 * 1000000 + micro) := by
  have hm := h.month_le
  have hz : zoneOf ['Z'] = some (some 0) := by decide
  rw [parseWidth, dateOf_pad hyear (by omega) h.day_lt]
  simp only [Option.bind_eq_bind, Option.bind_some, true_or, if_true,
    clockOf_pad h.hour_lt h.minute_lt h.second_lt hfrac, hz, hy,
    daysOf_of_month y h.month_pos h.month_le h.day_pos, Option.pure_def, Option.some.injEq]
  rw [h.seconds]
  ring

/-- **Every instant that Dart writes is read back**, in its second and with its fraction. -/
theorem Fields.parseUtc_textOf (toUtc : ℤ → ℤ) (ht : |t| ≤ limit)
    (ht' : |t / 1000000 * 1000000 + micro| ≤ limit)
    (hfrac : DateTime.fraction (frac ++ ['Z']) = some (micro, ['Z'])) :
    parseUtc toUtc (String.ofList (textOf t frac)) = some (t / 1000000 * 1000000 + micro) := by
  have hstop : ∀ (sign : ℤ) (year k : ℕ) (r : List Char), year < 10 ^ 4 →
      parseWidth toUtc sign (pad 4 year ++ '-' :: r) (4 + k + 1) = none := by
    intro sign year k r hyear
    rw [parseWidth, dateOf, number_pad_stop (by decide) hyear]
    rfl
  have hhead : ∀ (year : ℕ) (r : List Char), year < 10 ^ 4 →
      signOf (pad 4 year ++ r) = (1, pad 4 year ++ r) := by
    intro year r hyear
    have hd := isDigit_digitChar (d := year / 10 ^ 3) (by omega)
    rw [pad, List.cons_append]
    unfold signOf
    split
    · next hs =>
      rw [(List.cons.inj hs).1] at hd
      cases hd
    · next hs =>
      rw [(List.cons.inj hs).1] at hd
      cases hd
    · rfl
  have hlt := h.natAbs_year_lt ht
  rw [parseUtc, chars_ofList, h.text frac]
  rcases yearText_eq hlt with ⟨h0, h1, hy⟩ | ⟨h0, h1, hy⟩ | ⟨h0, hy⟩ | ⟨h0, hy⟩
  · have hwidth := h.parseWidth_eq toUtc 1
      (show y.natAbs < 10 ^ 4 by omega) (by omega) hfrac
    rw [hy, hhead _ _ (by omega)]
    simp only [List.findSome?_cons, hstop 1 y.natAbs 1 _ (by omega),
      hstop 1 y.natAbs 0 _ (by omega), hwidth, Option.bind_eq_bind, Option.bind_some, if_pos ht']
  · have hwidth := h.parseWidth_eq toUtc (-1)
      (show y.natAbs < 10 ^ 4 by omega) (by omega) hfrac
    rw [hy, List.cons_append, signOf]
    simp only [List.findSome?_cons, hstop (-1) y.natAbs 1 _ (by omega),
      hstop (-1) y.natAbs 0 _ (by omega), hwidth, Option.bind_eq_bind, Option.bind_some, if_pos ht']
  · have hwidth := h.parseWidth_eq toUtc 1
      (show y.natAbs < 10 ^ 6 by omega) (by omega) hfrac
    rw [hy, List.cons_append, signOf]
    simp only [List.findSome?_cons, hwidth, Option.bind_eq_bind, Option.bind_some, if_pos ht']
  · have hwidth := h.parseWidth_eq toUtc (-1)
      (show y.natAbs < 10 ^ 6 by omega) (by omega) hfrac
    rw [hy, List.cons_append, signOf]
    simp only [List.findSome?_cons, hwidth, Option.bind_eq_bind, Option.bind_some, if_pos ht']

omit h in
theorem bind_of_some {α β : Type} {x : Option α} {f : α → Option β} {a : α} {r : Option β}
    (hx : x = some a) (hr : f a = r) : x >>= f = r := by
  rw [hx]
  exact hr

/-- What the strict reader makes of the same text. -/
theorem Fields.unsigned_eq (sign : ℤ) {year : ℕ} (hyear : year < 10 ^ 4) (hy : sign * year = y)
    (hfrac : DateTime.fraction (frac ++ ['Z']) = some (micro, ['Z'])) :
    DateTime.unsigned sign (pad 4 year ++ '-' :: (pad 2 month ++ '-' :: (pad 2 day ++ 'T' ::
      (pad 2 hour ++ ':' :: (pad 2 minute ++ ':' :: (pad 2 second ++ (frac ++ ['Z'])))))))
      = some (t / 1000000 * 1000000 + micro, 0) := by
  have hm := h.month_le
  have hd := h.day_lt
  have hh := h.hour_lt
  have hmi := h.minute_lt
  have hs := h.second_lt
  have hz : DateTime.offset ['Z'] = some 0 := by decide
  rw [DateTime.unsigned]
  refine bind_of_some (number_pad hyear _) ?_
  iterate 5
    refine bind_of_some (sep_cons List.mem_cons_self _) ?_
    refine bind_of_some (number_pad (by omega) _) ?_
  refine bind_of_some hfrac ?_
  refine bind_of_some hz ?_
  rw [hy]
  rw [if_pos ⟨h.month_pos, h.month_le, h.day_pos, h.day_le, hh, hmi, hs⟩, h.seconds]
  dsimp only
  rw [sub_zero]

/-- **The strict reader reads the years of four digits**, and refuses the others. -/
theorem Fields.fromIso8601_textOf (ht : |t| ≤ limit)
    (hfrac : DateTime.fraction (frac ++ ['Z']) = some (micro, ['Z'])) :
    DateTime.fromIso8601 (String.ofList (textOf t frac)) =
      if y.natAbs < 10000 then some (t / 1000000 * 1000000 + micro, 0) else none := by
  have hlt := h.natAbs_year_lt ht
  have hwide : ∀ (sign : ℤ) (r : Text),
      DateTime.unsigned sign (pad 6 y.natAbs ++ r) = none := by
    intro sign r
    have hsplit : pad 6 y.natAbs = pad 4 (y.natAbs / 10 ^ 2) ++ pad 2 (y.natAbs % 10 ^ 2) :=
      pad_add (n := 4) (k := 2) (by omega)
    have hd := isDigit_digitChar (d := y.natAbs % 10 ^ 2 / 10 ^ 1) (by omega)
    rw [hsplit, List.append_assoc, DateTime.unsigned]
    have hsep : ∀ l, DateTime.sep ['-'] (pad 2 (y.natAbs % 10 ^ 2) ++ l) = none := by
      intro l
      rw [pad, List.cons_append, DateTime.sep, if_neg]
      intro hmem
      rw [List.mem_singleton.1 hmem] at hd
      cases hd
    refine bind_of_some (number_pad (by omega) _) ?_
    exact Option.bind_eq_none_iff.2 fun rest hrest => nomatch (hsep _).symm.trans hrest
  rw [DateTime.fromIso8601, chars_ofList, h.text frac]
  rcases yearText_eq hlt with ⟨h0, h1, hy⟩ | ⟨h0, h1, hy⟩ | ⟨h0, hy⟩ | ⟨h0, hy⟩
  · rw [hy, if_pos (by omega)]
    have hd := isDigit_digitChar (d := y.natAbs / 10 ^ 3) (by omega)
    have hread := h.unsigned_eq 1 (show y.natAbs < 10 ^ 4 by omega) (by omega) hfrac
    split
    · next hs =>
      rw [pad, List.cons_append] at hs
      rw [(List.cons.inj hs).1] at hd
      cases hd
    · next hs =>
      rw [pad, List.cons_append] at hs
      rw [(List.cons.inj hs).1] at hd
      cases hd
    · exact hread
  · rw [hy, if_pos (by omega), List.cons_append]
    exact h.unsigned_eq (-1) (by omega) (by omega) hfrac
  · rw [hy, if_neg (by omega), List.cons_append]
    exact hwide 1 _
  · rw [hy, if_neg (by omega), List.cons_append]
    exact hwide (-1) _

end Fields

end DartDateTime

end Ansible
