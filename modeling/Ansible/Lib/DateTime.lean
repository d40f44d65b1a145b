import Ansible.Lib.Text
import Mathlib.Tactic.IntervalCases
import Mathlib.Tactic.Ring

/-!
# ISO 8601 date-times

The extended format with an offset, as `DateTime.from_iso8601` reads it: a date, a
`T` or a blank, a time with an optional fraction of a second, and `Z` or a
numeric offset other than `-00:00`.

## Main definitions

* `DateTime.fromIso8601` — the instant in microseconds since 1970 and the offset in
  seconds, `none` for text that is no date-time.
* `DateTime.isCanonical` — the pattern of a UTC time with three digits of a second,
  or six of which the last three are not all zero.
* `DateTime.civilFromDays` — the date of a day.

## Main results

* `DateTime.civilFromDays_daysFromCivil` — a valid date is the civil date of its day.
* `DateTime.daysFromCivil_civilFromDays` — the civil date of a day is valid, and that of no other.
-/

namespace Ansible

namespace DateTime

def digit (c : Char) : Option ℕ := if c.isDigit then some (c.toNat - 48) else none

/-- A number of exactly `n` digits, and the rest. -/
def number : ℕ → List Char → Option (ℕ × List Char)
  | 0, cs => some (0, cs)
  | _ + 1, [] => none
  | n + 1, c :: cs => do
    let d ← digit c
    let (v, r) ← number n cs
    return (d * 10 ^ n + v, r)

/-- The rest after one character of `seps`. -/
def sep (seps : List Char) : List Char → Option (List Char)
  | c :: cs => if c ∈ seps then some cs else none
  | [] => none

def isLeapYear (y : ℤ) : Bool := y % 4 == 0 && (y % 100 != 0 || y % 400 == 0)

def daysInMonth (y : ℤ) (m : ℕ) : ℕ :=
  if m = 2 then (if isLeapYear y then 29 else 28)
  else if m = 4 ∨ m = 6 ∨ m = 9 ∨ m = 11 then 30 else 31

/-- Days from 1970-01-01, in a calendar whose years start in March. -/
def daysFromCivil (y : ℤ) (m d : ℕ) : ℤ :=
  let y := if m ≤ 2 then y - 1 else y
  let era := y / 400
  let doy : ℕ := (153 * ((m + 9) % 12) + 2) / 5 + d - 1
  let yoe := y - era * 400
  era * 146097 + (yoe * 365 + yoe / 4 - yoe / 100 + doy) - 719468

/-- The microseconds of a fraction of a second, of which six digits count. -/
def fraction (cs : List Char) : Option (ℕ × List Char) :=
  match cs with
  | '.' :: r | ',' :: r =>
    let ds := r.takeWhile Char.isDigit
    if ds = [] then none
    else
      let six := (ds ++ List.replicate 6 '0').take 6
      (number 6 six).map fun p => (p.1, r.dropWhile Char.isDigit)
  | r => some (0, r)

/-- The offset in seconds: `Z`, or a sign and hours with optional minutes. -/
def offset (cs : List Char) : Option ℤ :=
  match cs with
  | ['Z'] => some 0
  | ['-', '0', '0', ':', '0', '0'] => none
  | s :: r => do
    let sign : ℤ ← if s = '+' then some 1 else if s = '-' then some (-1) else none
    let (h, r) ← number 2 r
    let (m, r) ← match r with
      | [] => some (0, [])
      | ':' :: r => number 2 r
      | r => number 2 r
    if r = [] ∧ h < 24 ∧ m < 60 then some (sign * (h * 3600 + m * 60)) else none
  | [] => none

/-- Date, time and offset of an unsigned year. -/
def unsigned (sign : ℤ) (cs : List Char) : Option (ℤ × ℤ) := do
  let (year, r) ← number 4 cs
  let (month, r) ← number 2 (← sep ['-'] r)
  let (day, r) ← number 2 (← sep ['-'] r)
  let (hour, r) ← number 2 (← sep ['T', ' '] r)
  let (minute, r) ← number 2 (← sep [':'] r)
  let (second, r) ← number 2 (← sep [':'] r)
  let (micro, r) ← fraction r
  let off ← offset r
  let y : ℤ := sign * year
  if 1 ≤ month ∧ month ≤ 12 ∧ 1 ≤ day ∧ day ≤ daysInMonth y month ∧ hour < 24 ∧ minute < 60 ∧
      second < 60 then
    let seconds := daysFromCivil y month day * 86400 + (hour * 3600 + minute * 60 + second : ℕ)
    some ((seconds - off) * 1000000 + micro, off)
  else none

/-- The instant and the offset a text denotes. -/
def fromIso8601 (s : String) : Option (ℤ × ℤ) :=
  match chars s with
  | '+' :: r => unsigned 1 r
  | '-' :: r => unsigned (-1) r
  | r => unsigned 1 r

/-- `\d{4}-\d{2}-\d{2}T\d{2}:\d{2}:\d{2}\.\d{3}(?:(?!000)\d{3})?Z` -/
def isCanonical (s : String) : Bool :=
  let shape := (chars s).map fun c => if c.isDigit then '0' else c
  let micro := ((chars s).drop 23).take 3
  shape == "0000-00-00T00:00:00.000Z".toList ||
    (shape == "0000-00-00T00:00:00.000000Z".toList && micro != ['0', '0', '0'])

example : fromIso8601 "1970-01-02T00:00:00.5Z" = some (86400500000, 0) := by decide

/-! ### The date of a day -/

/-- The year, starting in March, and the day in it of a day counted from 0000-03-01. -/
def marchYear (n : ℤ) : ℤ × ℤ :=
  let doe := n % 146097
  let century := min (doe / 36524) 3
  let doc := doe - century * 36524
  let quad := doc / 1461
  let doq := doc - quad * 1461
  let year := min (doq / 365) 3
  (n / 146097 * 400 + century * 100 + quad * 4 + year, doq - year * 365)

/-- The month after March and the day in it of a day of such a year. -/
def marchMonth (doy : ℤ) : ℤ × ℤ :=
  let mp := (5 * doy + 2) / 153
  (mp, doy - (153 * mp + 2) / 5 + 1)

/-- Year, month and day of a day counted from 1970-01-01. -/
def civilFromDays (n : ℤ) : ℤ × ℕ × ℕ :=
  let (y, doy) := marchYear (n + 719468)
  let (mp, d) := marchMonth doy
  let m := if mp < 10 then mp + 3 else mp - 9
  (if m ≤ 2 then y + 1 else y, m.toNat, d.toNat)

/-- The days before a year that starts in March. -/
def daysBefore (y : ℤ) : ℤ := y / 400 * 146097 + (y % 400 * 365 + y % 400 / 4 - y % 400 / 100)

theorem marchYear_daysBefore {y doy : ℤ} (h0 : 0 ≤ doy) (h365 : doy ≤ 365)
    (hleap : doy = 365 → isLeapYear (y + 1) = true) : marchYear (daysBefore y + doy)
      = (y, doy) := by
  obtain ⟨era, century, quad, year, rfl, hc, hq, hy, hc', hq', hy'⟩ :
      ∃ e c q r : ℤ, y = 400 * e + 100 * c + 4 * q + r ∧ 0 ≤ c ∧ 0 ≤ q ∧ 0 ≤ r ∧ c ≤ 3 ∧ q ≤ 24 ∧
        r ≤ 3 :=
    ⟨y / 400, y % 400 / 100, y % 100 / 4, y % 4, by omega, by omega, by omega, by omega, by omega,
      by omega, by omega⟩
  have hlast : doy = 365 → year = 3 ∧ (quad = 24 → century = 3) := by
    intro h
    have := hleap h
    simp only [isLeapYear, Bool.and_eq_true, Bool.or_eq_true, beq_iff_eq, bne_iff_ne] at this
    omega
  have hbefore : daysBefore (400 * era + 100 * century + 4 * quad + year)
      = era * 146097 + (century * 36524 + quad * 1461 + year * 365) := by
    have h1 : (400 * era + 100 * century + 4 * quad + year) / 400 = era := by omega
    have h2 : (400 * era + 100 * century + 4 * quad + year) % 400
        = 100 * century + 4 * quad + year := by omega
    rw [daysBefore, h1, h2]
    omega
  have hera : (era * 146097 + (century * 36524 + quad * 1461 + year * 365) + doy) % 146097
      = century * 36524 + (quad * 1461 + (year * 365 + doy)) := by omega
  have hera' : (era * 146097 + (century * 36524 + quad * 1461 + year * 365) + doy) / 146097
      = era := by omega
  have hcentury : min ((century * 36524 + (quad * 1461 + (year * 365 + doy))) / 36524) 3
      = century := by omega
  have hquad : (quad * 1461 + (year * 365 + doy)) / 1461 = quad := by omega
  have hyear : min ((year * 365 + doy) / 365) 3 = year := by omega
  simp only [marchYear, hbefore, hera, hera', hcentury, add_sub_cancel_left, hquad, hyear]
  rw [Prod.mk.injEq]
  omega

theorem marchMonth_dayOfYear {y : ℤ} {m d : ℕ} (hm : 1 ≤ m) (hm' : m ≤ 12) (hd : 1 ≤ d)
    (hd' : d ≤ daysInMonth y m) :
    marchMonth (((153 * ((m + 9) % 12) + 2) / 5 + d - 1 : ℕ) : ℤ)
      = ((((m + 9) % 12 : ℕ) : ℤ), (d : ℤ)) := by
  have h31 : d ≤ 31 ∧ (m = 4 ∨ m = 6 ∨ m = 9 ∨ m = 11 → d ≤ 30) ∧ (m = 2 → d ≤ 29) := by
    unfold daysInMonth at hd'
    split_ifs at hd' <;> omega
  rw [marchMonth, Prod.mk.injEq]
  interval_cases m <;> dsimp only [Nat.reduceAdd, Nat.reduceMod, Nat.reduceMul, Nat.reduceDiv] <;>
    omega

theorem dayOfYear_bounds {y : ℤ} {m d : ℕ} (hm : 1 ≤ m) (hm' : m ≤ 12)
    (hd' : d ≤ daysInMonth y m) (doy : ℕ) (hdoy : doy = (153 * ((m + 9) % 12) + 2) / 5 + d - 1) :
    doy ≤ 365 ∧ (doy = 365 → m = 2 ∧ isLeapYear y = true) := by
  unfold daysInMonth at hd'
  split_ifs at hd' with h2 hl
  · exact ⟨by omega, fun _ => ⟨h2, hl⟩⟩
  · omega
  · omega
  · interval_cases m <;> omega

/-- **A valid date is the civil date of its day.** -/
theorem civilFromDays_daysFromCivil {y : ℤ} {m d : ℕ} (hm : 1 ≤ m) (hm' : m ≤ 12) (hd : 1 ≤ d)
    (hd' : d ≤ daysInMonth y m) : civilFromDays (daysFromCivil y m d) = (y, m, d) := by
  obtain ⟨y', hy'⟩ : ∃ y' : ℤ, y' = if m ≤ 2 then y - 1 else y := ⟨_, rfl⟩
  obtain ⟨doy, hdoy⟩ : ∃ doy : ℕ, doy = (153 * ((m + 9) % 12) + 2) / 5 + d - 1 := ⟨_, rfl⟩
  have hdays : daysFromCivil y m d + 719468 = daysBefore y' + doy := by
    have : y' - y' / 400 * 400 = y' % 400 := by omega
    rw [daysFromCivil, ← hy', ← hdoy, this, daysBefore]
    omega
  obtain ⟨h365, hleap⟩ := dayOfYear_bounds hm hm' hd' doy hdoy
  have hyear : marchYear (daysFromCivil y m d + 719468) = (y', (doy : ℤ)) := by
    rw [hdays]
    refine marchYear_daysBefore (by omega) (by omega) fun h => ?_
    obtain ⟨rfl, hl⟩ := hleap (by omega)
    rw [hy', if_pos (by decide), sub_add_cancel]
    exact hl
  have hmonth : marchMonth (doy : ℤ) = ((((m + 9) % 12 : ℕ) : ℤ), (d : ℤ)) := by
    rw [hdoy]
    exact marchMonth_dayOfYear hm hm' hd hd'
  simp only [civilFromDays, hyear, hmonth, Prod.mk.injEq]
  split_ifs <;> omega

/-- The day of the civil date of a day, in a year that starts in March. -/
theorem daysBefore_marchYear (n : ℤ) : 0 ≤ (marchYear n).2 ∧ (marchYear n).2 ≤ 365 ∧
    ((marchYear n).2 = 365 → isLeapYear ((marchYear n).1 + 1) = true) ∧
    daysBefore (marchYear n).1 + (marchYear n).2 = n := by
  obtain ⟨era, doe, hn, hera, hdoe, h0, h1⟩ : ∃ e r : ℤ, n = e * 146097 + r ∧ n / 146097 = e ∧
      n % 146097 = r ∧ 0 ≤ r ∧ r < 146097 :=
    ⟨n / 146097, n % 146097, by omega, rfl, rfl, by omega, by omega⟩
  obtain ⟨century, doc, hdoc, hcentury, hc0, hc3, hd0, hd1, hlast⟩ : ∃ c r : ℤ,
      doe = c * 36524 + r ∧ min (doe / 36524) 3 = c ∧ 0 ≤ c ∧ c ≤ 3 ∧ 0 ≤ r ∧ r ≤ 36524 ∧
        (r = 36524 → c = 3) :=
    ⟨min (doe / 36524) 3, doe - min (doe / 36524) 3 * 36524, by omega, rfl, by omega, by omega,
      by omega, by omega, by omega⟩
  obtain ⟨quad, doq, hdoq, hquad, hq0, hq24, hr0, hr1⟩ : ∃ q r : ℤ, doc = q * 1461 + r ∧
      doc / 1461 = q ∧ 0 ≤ q ∧ q ≤ 24 ∧ 0 ≤ r ∧ r ≤ 1460 :=
    ⟨doc / 1461, doc % 1461, by omega, rfl, by omega, by omega, by omega, by omega⟩
  obtain ⟨year, doy, hdoy, hyear, hy0, hy3, hz0, hz1, hleap⟩ : ∃ y r : ℤ, doq = y * 365 + r ∧
      min (doq / 365) 3 = y ∧ 0 ≤ y ∧ y ≤ 3 ∧ 0 ≤ r ∧ r ≤ 365 ∧ (r = 365 → y = 3) :=
    ⟨min (doq / 365) 3, doq - min (doq / 365) 3 * 365, by omega, rfl, by omega, by omega, by omega,
      by omega, by omega⟩
  have hmarch : marchYear n = (era * 400 + century * 100 + quad * 4 + year, doy) := by
    simp only [marchYear, hera, hdoe, hcentury, show doe - century * 36524 = doc by omega, hquad,
      show doc - quad * 1461 = doq by omega, hyear, show doq - year * 365 = doy by omega]
  have h400 : (era * 400 + century * 100 + quad * 4 + year) / 400 = era := by omega
  have hrest : (era * 400 + century * 100 + quad * 4 + year) % 400
      = century * 100 + quad * 4 + year := by omega
  rw [hmarch]
  refine ⟨hz0, hz1, fun h => ?_, ?_⟩
  · -- the last day of a leap year closes four years, and not a common century
    have hy := hleap h
    have hq : quad = 24 → century = 3 := by omega
    simp only [isLeapYear, Bool.and_eq_true, Bool.or_eq_true, beq_iff_eq, bne_iff_ne]
    omega
  · have h4 : (century * 100 + quad * 4 + year) / 4 = century * 25 + quad := by omega
    have h100 : (century * 100 + quad * 4 + year) / 100 = century := by omega
    rw [daysBefore, h400, hrest, h4, h100]
    omega

/-- The bounds of a month and its day, in a year that starts in March. -/
theorem marchMonth_bounds {doy : ℤ} (h0 : 0 ≤ doy) (h365 : doy ≤ 365) :
    ∃ mp d : ℕ, marchMonth doy = ((mp : ℤ), (d : ℤ)) ∧ mp < 12 ∧ 1 ≤ d ∧
      doy = ((153 * mp + 2) / 5 + d - 1 : ℕ) ∧ d ≤ 31 ∧
      (mp = 1 ∨ mp = 3 ∨ mp = 6 ∨ mp = 8 → d ≤ 30) ∧ (mp = 11 → d ≤ 29 ∧ (d = 29 → doy = 365)) := by
  obtain ⟨mp, hmp⟩ : ∃ mp : ℕ, (mp : ℤ) = (5 * doy + 2) / 153 :=
    ⟨((5 * doy + 2) / 153).toNat, by omega⟩
  obtain ⟨d, hd⟩ : ∃ d : ℕ, (d : ℤ) = doy - (153 * mp + 2) / 5 + 1 :=
    ⟨(doy - (153 * mp + 2) / 5 + 1).toNat, by omega⟩
  have hlt : mp < 12 := by omega
  refine ⟨mp, d, by rw [marchMonth, ← hmp, ← hd], hlt, by omega, by omega, ?_, ?_, ?_⟩
  all_goals interval_cases mp <;> omega

/-- **The civil date of a day is a valid date, and that of no other day.** -/
theorem daysFromCivil_civilFromDays (n : ℤ) : ∃ (y : ℤ) (m d : ℕ), civilFromDays n = (y, m, d) ∧
    1 ≤ m ∧ m ≤ 12 ∧ 1 ≤ d ∧ d ≤ daysInMonth y m ∧ daysFromCivil y m d = n := by
  obtain ⟨h0, h365, hleap, hn⟩ := daysBefore_marchYear (n + 719468)
  cases hyear : marchYear (n + 719468) with
  | mk y doy =>
    rw [hyear] at h0 h365 hleap hn
    dsimp only at h0 h365 hleap hn
    obtain ⟨mp, d, hmonth, hmp, hd, hdoy, h31, h30, h29⟩ := marchMonth_bounds h0 h365
    obtain ⟨m, hm, hm1, hm12, hmp'⟩ : ∃ m : ℕ, m = (if mp < 10 then mp + 3 else mp - 9) ∧ 1 ≤ m ∧
        m ≤ 12 ∧ (m + 9) % 12 = mp := by
      refine ⟨_, rfl, ?_⟩
      split_ifs <;> omega
    refine ⟨if m ≤ 2 then y + 1 else y, m, d, ?_, hm1, hm12, hd, ?_, ?_⟩
    · simp only [civilFromDays, hyear, hmonth, Prod.mk.injEq]
      split_ifs <;> omega
    · by_cases h2 : m = 2
      · obtain ⟨hle, hlast⟩ := h29 (by omega)
        rw [if_pos (by omega), daysInMonth, if_pos h2]
        split_ifs with hl
        · exact hle
        · by_contra hgt
          exact hl (hleap (hlast (by omega)))
      · unfold daysInMonth
        rw [if_neg h2]
        split_ifs <;> omega
    · have hsub : (if m ≤ 2 then (if m ≤ 2 then y + 1 else y) - 1 else if m ≤ 2 then y + 1 else y)
          = y := by
        split_ifs <;> omega
      have hera : y - y / 400 * 400 = y % 400 := by omega
      rw [daysBefore] at hn
      rw [daysFromCivil, hsub, hera, hmp']
      omega

/-! ### Texts of instants -/

/-- A natural number with at least `width` digits. -/
def padNat (width n : ℕ) : Text :=
  let ds := Nat.toDigits 10 n
  List.replicate (width - ds.length) '0' ++ ds

/-- How many digits of a fraction of a second an instant is written with. -/
def precision (s : String) : ℕ :=
  min 6 (((chars s).dropWhile fun c => c != '.' &&
    c != ',').drop 1 |>.takeWhile Char.isDigit).length

/-- `DateTime.to_iso8601` of an instant in UTC. -/
def toIso8601 (instant : ℤ) (precision : ℕ) : Text :=
  let days := instant / 86400000000
  let micros := (instant % 86400000000).toNat
  let secs := micros / 1000000
  let (y, m, d) := civilFromDays days
  let year := if y < 0 then '-' :: padNat 4 y.natAbs else padNat 4 y.natAbs
  let fraction :=
    if precision = 0 then [] else '.' :: (padNat 6 (micros % 1000000)).take precision
  year ++ '-' :: padNat 2 m ++ '-' :: padNat 2 d ++ 'T' :: padNat 2 (secs / 3600) ++
    ':' :: padNat 2 (secs / 60 % 60) ++ ':' :: padNat 2 (secs % 60) ++ fraction ++ ['Z']

example : toIso8601 86400500000 1 = "1970-01-02T00:00:00.5Z".toList := by decide

end DateTime

end Ansible
