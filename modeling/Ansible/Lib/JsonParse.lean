import Ansible.Lib.Json
import Mathlib.Algebra.Order.Field.Rat
import Mathlib.Data.Nat.Factorization.Basic
import Mathlib.Tactic.Ring

/-!
# Reading JSON text

A decoder for the whole JSON grammar, and the fact that it inverts `Json.encode`
on the values the text determines.  Repeated members of an object collapse to the
last one, as in a decoder that fills a map.

## Main definitions

* `parseValue`, `parseString`, `parseNumber` — the parsers, on character lists.
  Nesting is bounded by a fuel that the length of the text covers.
* `Json.decode` — a value with white space around it and nothing else; `decodeBytes` — of the
  bytes of a text.
* `parseInteger` — the number at the start of a text.

## Main results

* `Json.decode_encodeWith`, `decode_encode_of_determined` — **decoding inverts encoding**, whatever
  the escapes are.
* `Json.eq_of_encode_eq`, `encode_injective` — two determined values with one text are equal.
* `Json.decode_head` — with what a document starts.
-/

namespace Ansible

namespace Json

/-! ### The parsers -/

def isWs (c : Char) : Bool := c == ' ' || c == '\n' || c == '\r' || c == '\t'

def skipWs (cs : List Char) : List Char := cs.dropWhile isWs

/-- The value of a hexadecimal digit of either case. -/
def hexVal (c : Char) : Option ℕ :=
  if '0' ≤ c ∧ c ≤ '9' then some (c.toNat - 48)
  else if 'a' ≤ c ∧ c ≤ 'f' then some (c.toNat - 87)
  else if 'A' ≤ c ∧ c ≤ 'F' then some (c.toNat - 55)
  else none

def hex4 (a b c d : Char) : Option ℕ := do
  return ((← hexVal a) * 4096 + (← hexVal b) * 256 + (← hexVal c) * 16 + (← hexVal d))

/-- What a one-letter escape stands for. -/
def unescapeChar : Char → Option Char
  | '"' => some '"'
  | '\\' => some '\\'
  | '/' => some '/'
  | 'b' => some (Char.ofNat 8)
  | 'f' => some (Char.ofNat 12)
  | 'n' => some '\n'
  | 'r' => some '\r'
  | 't' => some '\t'
  | _ => none

/-- The rest of a string, up to and including its closing quote.  A surrogate
pair is one character; a lone surrogate is refused. -/
def parseString : List Char → Option (List Char × List Char)
  | [] => none
  | '"' :: r => some ([], r)
  | '\\' :: 'u' :: a :: b :: c :: d :: r =>
    match hex4 a b c d with
    | none => none
    | some n =>
      if 0xD800 ≤ n ∧ n < 0xDC00 then
        match r with
        | '\\' :: 'u' :: a' :: b' :: c' :: d' :: r' =>
          match hex4 a' b' c' d' with
          | none => none
          | some m =>
            if 0xDC00 ≤ m ∧ m < 0xE000 then
              (parseString r').map fun p =>
                (Char.ofNat (0x10000 + (n - 0xD800) * 1024 + (m - 0xDC00)) :: p.1, p.2)
            else none
        | _ => none
      else if 0xDC00 ≤ n ∧ n < 0xE000 then none
      else (parseString r).map fun p => (Char.ofNat n :: p.1, p.2)
  | '\\' :: e :: r =>
    match unescapeChar e with
    | none => none
    | some c => (parseString r).map fun p => (c :: p.1, p.2)
  | c :: r => if c.toNat < 32 then none else (parseString r).map fun p => (c :: p.1, p.2)

/-- The leading decimal digits. -/
def digits (cs : List Char) : List Char × List Char := cs.span Char.isDigit

/-- An integer part: `0`, or digits without a leading zero. -/
def parseNat (cs : List Char) : Option (ℕ × List Char) :=
  match digits cs with
  | ([], _) => none
  | ('0' :: _ :: _, _) => none
  | (ds, r) => some (Nat.ofDigitChars 10 ds 0, r)

/-- The exponent digits after `e`, with an optional sign. -/
def parseExponent (cs : List Char) : Option (ℤ × List Char) :=
  let (neg, cs) := match cs with
    | '-' :: r => (true, r)
    | '+' :: r => (false, r)
    | r => (false, r)
  match digits cs with
  | ([], _) => none
  | (ds, r) =>
    let n : ℤ := Nat.ofDigitChars 10 ds 0
    some (if neg then -n else n, r)

/-- What follows the integer part `n`: nothing, a fraction or an exponent. -/
def parseFraction (neg : Bool) (n : ℕ) : List Char → Option (Json × List Char)
  | '.' :: r =>
    match digits r with
    | ([], _) => none
    | (ds, r) =>
      let q : ℚ := n + Nat.ofDigitChars 10 ds 0 / 10 ^ ds.length
      let q := if neg then -q else q
      match r with
      | 'e' :: r | 'E' :: r => (parseExponent r).map fun e => (.float (q * 10 ^ e.1), e.2)
      | r => some (.float q, r)
  | 'e' :: r | 'E' :: r =>
    (parseExponent r).map fun e => (.float ((if neg then -(n : ℚ) else n) * 10 ^ e.1), e.2)
  | r => some (.int (if neg then -(n : ℤ) else n), r)

def parseUnsigned (neg : Bool) (cs : List Char) : Option (Json × List Char) :=
  (parseNat cs).bind fun p => parseFraction neg p.1 p.2

/-- A number: an integer, or a fraction when a point or an exponent follows. -/
def parseNumber : List Char → Option (Json × List Char)
  | '-' :: r => parseUnsigned true r
  | r => parseUnsigned false r

/-- For every key, its last member only. -/
def lastOfKeys : List (String × Json) → List (String × Json)
  | [] => []
  | kv :: l => if (l.map Prod.fst).contains kv.1 then lastOfKeys l else kv :: lastOfKeys l

mutual

def parseValue : ℕ → List Char → Option (Json × List Char)
  | 0, _ => none
  | n + 1, cs =>
    match skipWs cs with
    | 'n' :: 'u' :: 'l' :: 'l' :: r => some (.null, r)
    | 't' :: 'r' :: 'u' :: 'e' :: r => some (.bool true, r)
    | 'f' :: 'a' :: 'l' :: 's' :: 'e' :: r => some (.bool false, r)
    | '"' :: r => (parseString r).map fun p => (.str (String.ofList p.1), p.2)
    | '[' :: r =>
      match skipWs r with
      | ']' :: r' => some (.arr [], r')
      | r' => (parseElems n r').map fun p => (.arr p.1, p.2)
    | '{' :: r =>
      match skipWs r with
      | '}' :: r' => some (.obj [], r')
      | r' => (parseFields n r').map fun p => (.obj (lastOfKeys p.1), p.2)
    | cs => parseNumber cs

/-- The elements of a non-empty array, up to its closing bracket. -/
def parseElems : ℕ → List Char → Option (List Json × List Char)
  | 0, _ => none
  | n + 1, cs =>
    match parseValue n cs with
    | none => none
    | some (v, r) =>
      match skipWs r with
      | ',' :: r => (parseElems n r).map fun p => (v :: p.1, p.2)
      | ']' :: r => some ([v], r)
      | _ => none

/-- The members of a non-empty object, up to its closing brace. -/
def parseFields : ℕ → List Char → Option (List (String × Json) × List Char)
  | 0, _ => none
  | n + 1, cs =>
    match skipWs cs with
    | '"' :: r =>
      match parseString r with
      | none => none
      | some (k, r) =>
        match skipWs r with
        | ':' :: r =>
          match parseValue n r with
          | none => none
          | some (v, r) =>
            match skipWs r with
            | ',' :: r => (parseFields n r).map fun p => ((String.ofList k, v) :: p.1, p.2)
            | '}' :: r => some ([(String.ofList k, v)], r)
            | _ => none
        | _ => none
    | _ => none

end

/-- A whole document. -/
def decode (text : Text) : Option Json :=
  match parseValue (text.length + 1) text with
  | some (v, r) => if skipWs r = [] then some v else none
  | none => none

/-- The document that a binary encodes, when it is valid UTF-8. -/
def decodeBytes (b : Binary) : Option Json :=
  if (decodeUtf8 b).utf8 = b then decode (decodeUtf8 b) else none

/-! ### Strings are read back -/

variable {n d : ℕ} {c : Char} {rest cs : List Char}

theorem hexVal_digitChar_toUpper (hn : n < 16) : hexVal n.digitChar.toUpper = some n := by
  revert n
  decide

theorem parseString_escapeChar (c : Char) (r : List Char) :
    parseString (escapeChar c ++ r) = (parseString r).map fun p => (c :: p.1, p.2) := by
  unfold escapeChar
  by_cases h1 : c = '"'
  · subst h1; simp [parseString, unescapeChar]
  by_cases h2 : c = '\\'
  · subst h2; simp [parseString, unescapeChar]
  by_cases h3 : c = '\n'
  · subst h3; simp [parseString, unescapeChar]
  by_cases h4 : c = '\r'
  · subst h4; simp [parseString, unescapeChar]
  by_cases h5 : c = '\t'
  · subst h5; simp [parseString, unescapeChar]
  by_cases h6 : c.toNat = 8
  · have : c = Char.ofNat 8 := by rw [← h6, Char.ofNat_toNat]
    subst this; simp [parseString, unescapeChar]
  by_cases h7 : c.toNat = 12
  · have : c = Char.ofNat 12 := by rw [← h7, Char.ofNat_toNat]
    subst this; simp [parseString, unescapeChar]
  rw [if_neg h1, if_neg h2, if_neg h3, if_neg h4, if_neg h5, if_neg h6, if_neg h7]
  by_cases h8 : c.toNat < 32
  · rw [if_pos h8]
    -- the remaining control characters, written with four hexadecimal digits
    have h0 : hexVal '0' = some 0 := by decide
    have hhex : hex4 '0' '0' (c.toNat / 16).digitChar.toUpper (c.toNat % 16).digitChar.toUpper
        = some c.toNat := by
      simp only [hex4, h0, hexVal_digitChar_toUpper (show c.toNat / 16 < 16 by omega),
        hexVal_digitChar_toUpper (show c.toNat % 16 < 16 by omega)]
      simp only [Option.bind_eq_bind, Option.bind_some, Option.pure_def, Option.some.injEq]
      omega
    simp only [List.cons_append, List.nil_append, parseString, hhex]
    rw [if_neg (by omega), if_neg (by omega), Char.ofNat_toNat]
  · rw [if_neg h8, List.cons_append, List.nil_append, parseString.eq_def]
    split <;> simp_all

def ReadBack (escape : Char → Text) : Prop :=
  ∀ c r, parseString (escape c ++ r) = (parseString r).map fun p => (c :: p.1, p.2)

theorem parseString_flatMap {escape : Char → List Char} (hescape : ReadBack escape)
    (s rest : List Char) :
    parseString (s.flatMap escape ++ '"' :: rest) = some (s, rest) := by
  induction s with
  | nil => simp [parseString]
  | cons c s ih =>
    rw [List.flatMap_cons, List.append_assoc, hescape, ih]
    rfl

/-! ### Integers are read back -/

theorem head?_toDigits_ten_eq_zero (h : (Nat.toDigits 10 n).head? = some '0') : n = 0 := by
  induction n using Nat.strong_induction_on with
  | _ n ih =>
    rw [Nat.toDigits_eq_if (by decide)] at h
    split at h
    · next hn =>
      have hall : ∀ m : ℕ, m < 10 → [Nat.digitChar m].head? = some '0' → m = 0 := by decide
      exact hall n hn h
    · next hn =>
      rw [List.head?_append_of_ne_nil _ Nat.toDigits_ne_nil] at h
      have := ih (n / 10) (by omega) h
      omega

theorem toDigits_ten_ne_zero_cons_cons {l : List Char} : Nat.toDigits 10 n ≠ '0' :: c :: l := by
  intro h
  have hn : n = 0 := head?_toDigits_ten_eq_zero (by rw [h]; rfl)
  subst hn
  simp [Nat.toDigits_zero] at h

/-- The text after a number does not continue it. -/
def NumberEnds (rest : List Char) : Prop :=
  ∀ c ∈ rest.head?, c.isDigit = false ∧ c ≠ '.' ∧ c ≠ 'e' ∧ c ≠ 'E'

theorem numberEnds_cons {r : List Char} (h : c.isDigit = false ∧ c ≠ '.' ∧ c ≠ 'e' ∧ c ≠ 'E') :
    NumberEnds (c :: r) := by
  simpa [NumberEnds] using h

theorem toDigits_head (n : ℕ) : ∃ c l, Nat.toDigits 10 n = c :: l ∧ c.isDigit = true := by
  cases h : Nat.toDigits 10 n with
  | nil => exact absurd h Nat.toDigits_ne_nil
  | cons c l =>
    exact ⟨c, l, rfl, Nat.isDigit_of_mem_toDigits (by omega) (by omega) (h ▸ List.mem_cons_self)⟩

theorem digits_append {ds : List Char} (hds : ∀ c ∈ ds, c.isDigit = true)
    (hrest : ∀ c ∈ rest.head?, c.isDigit = false) : digits (ds ++ rest) = (ds, rest) := by
  have hr : rest.takeWhile Char.isDigit = [] ∧ rest.dropWhile Char.isDigit = rest := by
    cases rest with
    | nil => exact ⟨rfl, rfl⟩
    | cons c r => simp [hrest c rfl]
  rw [digits, List.span_eq_takeWhile_dropWhile, List.takeWhile_append_of_pos hds,
    List.dropWhile_append_of_pos hds, hr.1, hr.2, List.append_nil]

theorem parseNat_toDigits (n : ℕ) (hrest : ∀ c ∈ rest.head?, c.isDigit = false) :
    parseNat (Nat.toDigits 10 n ++ rest) = some (n, rest) := by
  rw [parseNat, digits_append (fun c hc => Nat.isDigit_of_mem_toDigits (by omega) (by omega) hc)
    hrest]
  split
  · next h => exact absurd (congrArg Prod.fst h) Nat.toDigits_ne_nil
  · next h => exact absurd (congrArg Prod.fst h) toDigits_ten_ne_zero_cons_cons
  · next ds r _ _ h =>
    cases h
    rw [Nat.ofDigitChars_ten_toDigits]

theorem parseUnsigned_toDigits (neg : Bool) (n : ℕ) (hrest : NumberEnds rest) :
    parseUnsigned neg (Nat.toDigits 10 n ++ rest)
      = some (.int (if neg then -(n : ℤ) else n), rest) := by
  rw [parseUnsigned, parseNat_toDigits n fun c hc => (hrest c hc).1, Option.bind_some]
  cases rest with
  | nil => rfl
  | cons c r =>
    obtain ⟨-, h1, h2, h3⟩ := hrest c rfl
    rw [parseFraction.eq_def]
    split <;> simp_all

theorem parseNumber_encodeInt (i : ℤ) (hrest : NumberEnds rest) :
    parseNumber (encodeInt i ++ rest) = some (.int i, rest) := by
  cases i with
  | ofNat n =>
    obtain ⟨c, l, hcl, hd⟩ := toDigits_head n
    have hne : c ≠ '-' := by rintro rfl; exact absurd hd (by decide)
    have hp := parseUnsigned_toDigits false n hrest
    rw [encodeInt, parseNumber.eq_def]
    split
    · next heq => simp [hcl, hne] at heq
    · exact hp
  | negSucc n =>
    rw [encodeInt, List.cons_append, parseNumber, parseUnsigned_toDigits true _ hrest]
    rfl

/-! ### Fractions -/

theorem isDigit_of_mem_fractionDigits {fuel : ℕ} (hn : n < d) (hc : c ∈ fractionDigits fuel n d) :
    c.isDigit = true := by
  induction fuel generalizing n with
  | zero => exact absurd hc List.not_mem_nil
  | succ fuel ih =>
    rw [fractionDigits] at hc
    split at hc
    · exact absurd hc List.not_mem_nil
    rcases List.mem_cons.1 hc with rfl | hc
    · have hlt : 10 * n / d < 10 := Nat.div_lt_of_lt_mul (by omega)
      have hall : ∀ m : ℕ, m < 10 → (Nat.digitChar m).isDigit = true := by decide
      exact hall _ hlt
    · exact ih (Nat.mod_lt _ (by omega)) hc

/-- The digits are those of the fraction, when there are enough of them. -/
theorem ofDigitChars_fractionDigits {fuel : ℕ} (hn : n < d) (hdvd : d ∣ n * 10 ^ fuel) (init : ℕ) :
    Nat.ofDigitChars 10 (fractionDigits fuel n d) init * d =
      (init * d + n) * 10 ^ (fractionDigits fuel n d).length := by
  induction fuel generalizing n init with
  | zero =>
    have hzero : n = 0 := Nat.eq_zero_of_dvd_of_lt (by simpa using hdvd) hn
    simp [fractionDigits, hzero]
  | succ fuel ih =>
    rw [fractionDigits]
    split
    · next hzero => simp [hzero]
    · next hpos =>
      have hlt : 10 * n / d < 10 := Nat.div_lt_of_lt_mul (by omega)
      have hsplit : d * (10 * n / d) + 10 * n % d = 10 * n := Nat.div_add_mod _ _
      have hrest : d ∣ 10 * n % d * 10 ^ fuel := by
        have htotal : d * (10 * n / d * 10 ^ fuel) + 10 * n % d * 10 ^ fuel
          = n * 10 ^ (fuel + 1) := by
          rw [← Nat.mul_assoc, ← Nat.add_mul, hsplit, Nat.pow_succ]
          ring
        exact (Nat.dvd_add_right (Dvd.intro _ rfl)).1 (htotal ▸ hdvd)
      rw [Nat.ofDigitChars_cons_digitChar_of_lt_ten hlt, ih (Nat.mod_lt _ (by omega)) hrest,
        List.length_cons, Nat.pow_succ]
      have hsum : (10 * init + 10 * n / d) * d + 10 * n % d = 10 * (init * d + n) := by
        rw [Nat.add_mul, Nat.mul_comm (10 * n / d) d, Nat.add_assoc, hsplit]
        ring
      rw [hsum]
      ring

theorem dvd_pow_self_of_dvd_pow {k : ℕ} (h : d ∣ 10 ^ k) : d ∣ 10 ^ d := by
  have hd : d ≠ 0 := fun h0 => by simp [h0] at h
  refine (Nat.factorization_prime_le_iff_dvd hd (pow_ne_zero d (by decide))).1 fun p hp => ?_
  by_cases hpd : p ∣ d
  · have hten : p ∣ 10 := hp.dvd_of_dvd_pow (hpd.trans h)
    have hone : 1 ≤ Nat.factorization 10 p := hp.factorization_pos_of_dvd (by decide) hten
    rw [Nat.factorization_pow, Finsupp.smul_apply, smul_eq_mul]
    calc d.factorization p ≤ d := (Nat.factorization_lt p hd).le
      _ = d * 1 := (Nat.mul_one d).symm
      _ ≤ d * Nat.factorization 10 p := Nat.mul_le_mul_left d hone
  · rw [Nat.factorization_eq_zero_of_not_dvd hpd]
    exact Nat.zero_le _

theorem parseFraction_digits (neg : Bool) (n : ℕ) {ds : List Char} (hne : ds ≠ [])
    (hds : ∀ c ∈ ds, c.isDigit = true) (hrest : NumberEnds rest) :
    parseFraction neg n ('.' :: (ds ++ rest)) =
      some (.float (if neg then -(n + Nat.ofDigitChars 10 ds 0 / 10 ^ ds.length : ℚ)
        else n + Nat.ofDigitChars 10 ds 0 / 10 ^ ds.length), rest) := by
  rw [parseFraction, digits_append hds fun c hc => (hrest c hc).1]
  cases ds with
  | nil => exact absurd rfl hne
  | cons d ds =>
    dsimp only
    split
    · exact absurd rfl (hrest 'e' rfl).2.2.1
    · exact absurd rfl (hrest 'E' rfl).2.2.2
    · rfl

theorem parseNumber_encodeFloat {q : ℚ} (hq : IsDecimal q) (hrest : NumberEnds rest) :
    parseNumber (encodeFloat q ++ rest) = some (.float q, rest) := by
  obtain ⟨k, hk⟩ := hq
  have hden := q.den_pos
  have hlt : q.num.natAbs % q.den < q.den := Nat.mod_lt _ hden
  have hdvd : q.den ∣ q.num.natAbs % q.den * 10 ^ (q.den + 1) :=
    ((dvd_pow_self_of_dvd_pow hk).trans (pow_dvd_pow 10 (Nat.le_succ _))).mul_left _
  have hvalue := ofDigitChars_fractionDigits hlt hdvd 0
  have hdigits : ∀ c ∈ fractionDigits (q.den + 1) (q.num.natAbs % q.den) q.den, c.isDigit = true :=
    fun _ hc => isDigit_of_mem_fractionDigits hlt hc
  rw [Nat.zero_mul, Nat.zero_add] at hvalue
  rw [encodeFloat]
  generalize fractionDigits (q.den + 1) (q.num.natAbs % q.den) q.den = ds at hvalue hdigits
  obtain ⟨ds', hds', hne, hall, hfrac⟩ : ∃ ds', (if ds = [] then ['0'] else ds) = ds' ∧ ds' ≠ [] ∧
      (∀ c ∈ ds', c.isDigit = true) ∧
      Nat.ofDigitChars 10 ds' 0 * q.den = q.num.natAbs % q.den * 10 ^ ds'.length := by
    refine ⟨_, rfl, ?_⟩
    split
    · next hnil =>
      subst hnil
      simp only [Nat.ofDigitChars_nil, Nat.zero_mul, List.length_nil, Nat.pow_zero,
        Nat.mul_one] at hvalue
      refine ⟨by simp, by simp, ?_⟩
      rw [← hvalue]
      simp [Nat.ofDigitChars_cons]
    · next hne => exact ⟨hne, hdigits, hvalue⟩
  rw [hds']
  -- the digits on both sides of the point add up to `|q|`
  have habs : ((q.num.natAbs / q.den : ℕ) : ℚ) + Nat.ofDigitChars 10 ds' 0 / 10 ^ ds'.length =
      |q| := by
    have hq0 : (q.den : ℚ) ≠ 0 := Nat.cast_ne_zero.2 hden.ne'
    have hcast : (Nat.ofDigitChars 10 ds' 0 : ℚ) * q.den =
        (q.num.natAbs % q.den : ℕ) * 10 ^ ds'.length := by exact_mod_cast hfrac
    have hsplit : ((q.num.natAbs / q.den : ℕ) : ℚ) * q.den + (q.num.natAbs % q.den : ℕ) =
        q.num.natAbs := by exact_mod_cast Nat.div_add_mod' _ _
    have hq' : |q| = q.num.natAbs / q.den := by
      rw [Rat.abs_def, Rat.divInt_eq_div]
      simp
    rw [hq', eq_div_iff hq0, add_mul, div_mul_eq_mul_div, hcast, mul_div_assoc,
      div_self (pow_ne_zero _ (OfNat.ofNat_ne_zero 10)), mul_one, hsplit]
  have hstop : ∀ c ∈ ('.' :: (ds' ++ rest)).head?, c.isDigit = false := by simp
  have hnat := parseNat_toDigits (q.num.natAbs / q.den) hstop
  have hparse : ∀ neg, parseUnsigned neg (Nat.toDigits 10 (q.num.natAbs / q.den) ++
      '.' :: (ds' ++ rest)) = some (.float (if neg then -|q| else |q|), rest) := by
    intro neg
    rw [parseUnsigned, hnat, Option.bind_some, parseFraction_digits neg _ hne hall hrest, habs]
  by_cases hneg : q < 0
  · rw [if_pos hneg, List.append_assoc, List.append_assoc, List.cons_append, List.cons_append,
      List.nil_append, parseNumber, hparse, if_pos rfl, abs_of_neg hneg, neg_neg]
  · rw [if_neg hneg, List.nil_append, List.append_assoc, List.cons_append]
    obtain ⟨c, l, hcl, hd⟩ := toDigits_head (q.num.natAbs / q.den)
    have hminus : c ≠ '-' := by
      rintro rfl
      exact absurd hd (by decide)
    rw [parseNumber.eq_def]
    split
    · next heq => simp [hcl, hminus] at heq
    · rw [hparse, if_neg Bool.false_ne_true, abs_of_nonneg (not_lt.1 hneg)]

/-! ### Values are read back -/

theorem skipWs_cons (hc : isWs c = false) (r : List Char) : skipWs (c :: r) = c :: r := by
  simp [skipWs, hc]

theorem encodeInt_head (i : ℤ) :
    ∃ c l, encodeInt i = c :: l ∧ (c = '-' ∨ c.isDigit = true) := by
  cases i with
  | ofNat n =>
    obtain ⟨c, l, hcl, hd⟩ := toDigits_head n
    exact ⟨c, l, hcl, .inr hd⟩
  | negSucc n => exact ⟨'-', Nat.toDigits 10 (n + 1), rfl, .inl rfl⟩

theorem isWs_of_number (hc : c = '-' ∨ c.isDigit = true) : isWs c = false := by
  unfold isWs
  rcases hc with rfl | hc
  · decide
  · simp only [Bool.or_eq_false_iff, beq_eq_false_iff_ne]
    refine ⟨⟨⟨?_, ?_⟩, ?_⟩, ?_⟩ <;> rintro rfl <;> exact absurd hc (by decide)

theorem parseValue_of_number {r : List Char} (hc : c = '-' ∨ c.isDigit = true) :
    parseValue (n + 1) (c :: r) = parseNumber (c :: r) := by
  rw [parseValue, skipWs_cons (isWs_of_number hc)]
  split
  all_goals first
    | rfl
    | (rename_i heq
       obtain ⟨rfl, -⟩ := List.cons.inj heq
       rcases hc with hc | hc <;> exact absurd hc (by decide))

theorem encodeFloat_head (q : ℚ) :
    ∃ c l, encodeFloat q = c :: l ∧ (c = '-' ∨ c.isDigit = true) := by
  rw [encodeFloat]
  split
  · exact ⟨'-', _, rfl, .inl rfl⟩
  · obtain ⟨c, l, hcl, hd⟩ := toDigits_head (q.num.natAbs / q.den)
    exact ⟨c, _, by rw [hcl]; rfl, .inr hd⟩

/-! ### Encoders -/

/-- A string between quotes, its characters written by `escape`. -/
def quoteWith (escape : Char → Text) (s : String) : Text :=
  '"' :: ((chars s).flatMap escape ++ ['"'])

mutual

/-- The compact text of a value, its strings written by `escape`. -/
def encodeWith (escape : Char → Text) : Json → Text
  | .str s => quoteWith escape s
  | .arr l => '[' :: (commaSep (encodeElemsWith escape l) ++ [']'])
  | .obj f => '{' :: (commaSep (encodeFieldsWith escape f) ++ ['}'])
  | v => encode v

def encodeElemsWith (escape : Char → Text) : List Json → List Text
  | [] => []
  | v :: l => encodeWith escape v :: encodeElemsWith escape l

def encodeFieldsWith (escape : Char → Text) : List (String × Json) → List Text
  | [] => []
  | (k, v) :: l => (quoteWith escape k ++ ':' :: encodeWith escape v) :: encodeFieldsWith escape l

end

mutual

theorem encodeWith_escapeChar : ∀ v : Json, encodeWith escapeChar v = encode v
  | .null | .int _ | .float _ | .str _ => rfl
  | .bool true | .bool false => rfl
  | .arr l => by rw [encodeWith, encode, encodeElemsWith_escapeChar l]
  | .obj f => by rw [encodeWith, encode, encodeFieldsWith_escapeChar f]

theorem encodeElemsWith_escapeChar : ∀ l : List Json, encodeElemsWith escapeChar l = encodeElems l
  | [] => rfl
  | v :: l => congrArg₂ List.cons (encodeWith_escapeChar v) (encodeElemsWith_escapeChar l)

theorem encodeFieldsWith_escapeChar : ∀ f : List (String × Json),
    encodeFieldsWith escapeChar f = encodeFields f
  | [] => rfl
  | (k, v) :: f => congrArg₂ List.cons
      (congrArg (quoteWith escapeChar k ++ ':' :: ·) (encodeWith_escapeChar v))
      (encodeFieldsWith_escapeChar f)

end

variable {escape : Char → Text}

theorem encodeWith_int (i : ℤ) : encodeWith escape (.int i) = encodeInt i := rfl

theorem encodeWith_float (q : ℚ) : encodeWith escape (.float q) = encodeFloat q := rfl

theorem encodeWith_head (v : Json) :
    ∃ c l, encodeWith escape v = c :: l ∧ isWs c = false ∧ c ≠ ']' := by
  have hnumber : ∀ {c : Char}, c = '-' ∨ c.isDigit = true → c ≠ ']' := by
    rintro c hc rfl
    rcases hc with hc | hc <;> exact absurd hc (by decide)
  cases v with
  | null => exact ⟨'n', _, rfl, by decide, by decide⟩
  | bool b =>
    cases b
    · exact ⟨'f', _, rfl, by decide, by decide⟩
    · exact ⟨'t', _, rfl, by decide, by decide⟩
  | int i =>
    obtain ⟨c, l, hcl, hc⟩ := encodeInt_head i
    exact ⟨c, l, hcl, isWs_of_number hc, hnumber hc⟩
  | float q =>
    obtain ⟨c, l, hcl, hc⟩ := encodeFloat_head q
    exact ⟨c, l, hcl, isWs_of_number hc, hnumber hc⟩
  | str s => exact ⟨'"', _, rfl, by decide, by decide⟩
  | arr l => exact ⟨'[', _, rfl, by decide, by decide⟩
  | obj f => exact ⟨'{', _, rfl, by decide, by decide⟩

theorem lastOfKeys_of_nodup {f : List (String × Json)} (h : (f.map Prod.fst).Nodup) :
    lastOfKeys f = f := by
  induction f with
  | nil => rfl
  | cons kv f ih =>
    rw [List.map_cons, List.nodup_cons] at h
    rw [lastOfKeys, if_neg (by simpa using h.1), ih h.2]

theorem encodeElemsWith_head (v : Json) (l : List Json) :
    ∃ c t, commaSep (encodeElemsWith escape (v :: l)) = c :: t ∧ isWs c = false ∧ c ≠ ']' := by
  obtain ⟨c, t, hct, hws, hne⟩ := encodeWith_head v
  cases l with
  | nil => exact ⟨c, t, hct, hws, hne⟩
  | cons w l =>
    refine ⟨c, t ++ ',' :: commaSep (encodeElemsWith escape (w :: l)), ?_, hws, hne⟩
    rw [encodeElemsWith, encodeElemsWith, commaSep, ← encodeElemsWith, hct, List.cons_append]

theorem encodeFieldsWith_head (k : String) (v : Json) (f : List (String × Json)) :
    ∃ t, commaSep (encodeFieldsWith escape ((k, v) :: f)) = '"' :: t := by
  cases f with
  | nil => exact ⟨_, rfl⟩
  | cons kv f => exact ⟨_, rfl⟩

theorem parseValue_bracket {t : List Char} (hws : isWs c = false) (hc : c ≠ ']') :
    parseValue (n + 1) ('[' :: c :: t) = (parseElems n (c :: t)).map fun p => (.arr p.1, p.2) := by
  rw [parseValue, skipWs_cons (by decide)]
  simp only [skipWs_cons hws]
  split
  · next heq => exact absurd (List.cons.inj heq).1 hc
  · rfl

theorem parseValue_brace {t : List Char} :
    parseValue (n + 1) ('{' :: '"' :: t)
      = (parseFields n ('"' :: t)).map fun p => (.obj (lastOfKeys p.1), p.2) := by
  rw [parseValue, skipWs_cons (by decide)]
  simp only [skipWs_cons (show isWs '"' = false by decide)]
  rfl

theorem parseElems_comma {r : List Char} {v : Json} (h : parseValue n cs = some (v, ',' :: r)) :
    parseElems (n + 1) cs = (parseElems n r).map fun p => (v :: p.1, p.2) := by
  rw [parseElems, h]
  simp only [skipWs_cons (show isWs ',' = false by decide)]

theorem parseElems_bracket {n : ℕ} {cs r : List Char} {v : Json}
    (h : parseValue n cs = some (v, ']' :: r)) : parseElems (n + 1) cs = some ([v], r) := by
  rw [parseElems, h]
  simp only [skipWs_cons (show isWs ']' = false by decide)]

theorem parseFields_comma (hescape : ReadBack escape) {k : String} {r : List Char} {v : Json}
    (h : parseValue n cs = some (v, ',' :: r)) :
    parseFields (n + 1) (quoteWith escape k ++ ':' :: cs)
      = (parseFields n r).map fun p => ((k, v) :: p.1, p.2) := by
  rw [quoteWith, List.cons_append, List.append_assoc, List.singleton_append, parseFields,
    skipWs_cons (by decide)]
  simp only [parseString_flatMap hescape, skipWs_cons (show isWs ':' = false by decide), h,
    skipWs_cons (show isWs ',' = false by decide), ofList_chars]

theorem parseFields_brace (hescape : ReadBack escape) {k : String} {r : List Char} {v : Json}
    (h : parseValue n cs = some (v, '}' :: r)) :
    parseFields (n + 1) (quoteWith escape k ++ ':' :: cs) = some ([(k, v)], r) := by
  rw [quoteWith, List.cons_append, List.append_assoc, List.singleton_append, parseFields,
    skipWs_cons (by decide)]
  simp only [parseString_flatMap hescape, skipWs_cons (show isWs ':' = false by decide), h,
    skipWs_cons (show isWs '}' = false by decide), ofList_chars]

theorem numberEnds_comma (r : List Char) : NumberEnds (',' :: r) := numberEnds_cons (by decide)

theorem numberEnds_bracket (r : List Char) : NumberEnds (']' :: r) := numberEnds_cons (by decide)

theorem numberEnds_brace (r : List Char) : NumberEnds ('}' :: r) := numberEnds_cons (by decide)

/-- With fuel `n`, values whose text fits are read back. -/
def ReadsValues (escape : Char → Text) (n : ℕ) : Prop :=
  ∀ (v : Json) (rest : List Char), v.Determined → (encodeWith escape v).length ≤ n →
    NumberEnds rest →
    parseValue n (encodeWith escape v ++ rest) = some (v, rest)

/-- With fuel `n`, the elements of arrays whose text fits are read back. -/
def ReadsElems (escape : Char → Text) (n : ℕ) : Prop :=
  ∀ (v : Json) (l : List Json) (rest : List Char), DeterminedElems (v :: l) →
    (commaSep (encodeElemsWith escape (v :: l))).length + 1 ≤ n →
      parseElems n (commaSep (encodeElemsWith escape (v :: l)) ++ ']' :: rest) = some (v :: l, rest)

/-- With fuel `n`, the members of objects whose text fits are read back. -/
def ReadsFields (escape : Char → Text) (n : ℕ) : Prop :=
  ∀ (k : String) (v : Json) (f : List (String × Json)) (rest : List Char),
    DeterminedFields ((k, v) :: f) →
    (commaSep (encodeFieldsWith escape ((k, v) :: f))).length + 1 ≤ n →
      parseFields n (commaSep (encodeFieldsWith escape ((k, v) :: f)) ++ '}' :: rest)
        = some ((k, v) :: f, rest)

theorem readsValues_zero : ReadsValues escape 0 := by
  intro v rest _ hn _
  obtain ⟨c, l, hcl, -, -⟩ := encodeWith_head v
  rw [hcl] at hn
  simp at hn

theorem readsValues_succ (hescape : ReadBack escape) (he : ReadsElems escape n)
    (hf : ReadsFields escape n) : ReadsValues escape (n + 1) := by
  intro v rest hv hn hrest
  cases v with
  | null => rfl
  | bool b => cases b <;> rfl
  | int i =>
    obtain ⟨c, l, hcl, hc⟩ := encodeInt_head i
    have hp := parseNumber_encodeInt i hrest
    rw [encodeWith_int, hcl, List.cons_append, parseValue_of_number hc,
      ← List.cons_append, ← hcl, hp]
  | float q =>
    obtain ⟨c, l, hcl, hc⟩ := encodeFloat_head q
    have hp := parseNumber_encodeFloat hv hrest
    rw [encodeWith_float, hcl, List.cons_append, parseValue_of_number hc,
      ← List.cons_append, ← hcl, hp]
  | str s =>
    rw [encodeWith, quoteWith, List.cons_append, List.append_assoc, parseValue,
      skipWs_cons (by decide)]
    simp only [List.cons_append, List.nil_append, parseString_flatMap hescape, Option.map_some,
      ofList_chars]
  | arr l =>
    cases l with
    | nil => rfl
    | cons v l =>
      have hv' : DeterminedElems (v :: l) := hv
      rw [encodeWith, List.length_cons, List.length_append, List.length_singleton] at hn
      have hp := he v l rest hv' (by omega)
      obtain ⟨c, t, hct, hws, hne⟩ := encodeElemsWith_head v l
      rw [encodeWith, List.cons_append, List.append_assoc, List.singleton_append, hct,
        List.cons_append, parseValue_bracket hws hne, ← List.cons_append, ← hct, hp,
        Option.map_some]
  | obj f =>
    cases f with
    | nil => rfl
    | cons kv f =>
      obtain ⟨k, v⟩ := kv
      rw [encodeWith, List.length_cons, List.length_append, List.length_singleton] at hn
      have hp := hf k v f rest hv.2 (by omega)
      obtain ⟨t, ht⟩ := encodeFieldsWith_head k v f
      rw [encodeWith, List.cons_append, List.append_assoc, List.singleton_append, ht,
        List.cons_append, parseValue_brace, ← List.cons_append, ← ht, hp, Option.map_some,
        lastOfKeys_of_nodup hv.1]

theorem readsElems_succ (hv : ReadsValues escape n) (he : ReadsElems escape n) :
    ReadsElems escape (n + 1) := by
  intro v l rest hwf hn
  cases l with
  | nil =>
    simp only [encodeElemsWith, commaSep] at hn ⊢
    exact parseElems_bracket (hv v _ hwf.1 (by omega) (numberEnds_bracket rest))
  | cons w l =>
    rw [encodeElemsWith, encodeElemsWith, commaSep, ← encodeElemsWith] at hn ⊢
    rw [List.append_assoc, List.cons_append]
    simp only [List.length_append, List.length_cons] at hn
    have hp := he w l rest hwf.2 (by omega)
    have h := hv v (',' :: (commaSep (encodeElemsWith escape (w :: l)) ++ ']' :: rest)) hwf.1
      (by omega) (numberEnds_comma _)
    rw [parseElems_comma h, hp, Option.map_some]

theorem readsFields_succ (hescape : ReadBack escape) (hv : ReadsValues escape n)
    (hf : ReadsFields escape n) : ReadsFields escape (n + 1) := by
  intro k v f rest hwf hn
  cases f with
  | nil =>
    simp only [encodeFieldsWith, commaSep, List.length_append, List.length_cons] at hn ⊢
    have h := hv v _ hwf.1 (by omega) (numberEnds_brace rest)
    rw [List.append_assoc, List.cons_append, parseFields_brace hescape h]
  | cons kv f =>
    obtain ⟨k', v'⟩ := kv
    rw [encodeFieldsWith, encodeFieldsWith, commaSep, ← encodeFieldsWith] at hn ⊢
    rw [List.append_assoc, List.append_assoc, List.cons_append, List.cons_append]
    simp only [List.length_append, List.length_cons] at hn
    have hp := hf k' v' f rest hwf.2 (by omega)
    have h := hv v (',' :: (commaSep (encodeFieldsWith escape ((k', v') :: f)) ++ '}' :: rest))
      hwf.1 (by omega) (numberEnds_comma _)
    rw [parseFields_comma hescape h, hp, Option.map_some]

theorem reads (hescape : ReadBack escape) (n : ℕ) :
    ReadsValues escape n ∧ ReadsElems escape n ∧ ReadsFields escape n := by
  induction n with
  | zero => exact ⟨readsValues_zero, fun _ _ _ _ h => by omega, fun _ _ _ _ _ h => by omega⟩
  | succ n ih =>
    obtain ⟨hv, he, hf⟩ := ih
    exact ⟨readsValues_succ hescape he hf, readsElems_succ hv he, readsFields_succ hescape hv hf⟩

/-- **Decoding inverts encoding** on the values the text determines. -/
theorem decode_encodeWith (hescape : ReadBack escape) {v : Json} (hv : v.Determined) :
    decode (encodeWith escape v) = some v := by
  have h := (reads hescape ((encodeWith escape v).length + 1)).1 v [] hv (by omega)
    (by simp [NumberEnds])
  rw [List.append_nil] at h
  rw [decode, h]
  rfl

theorem decode_encode_of_determined {v : Json} (hv : v.Determined) :
    decode (encode v) = some v := by
  rw [← encodeWith_escapeChar, decode_encodeWith parseString_escapeChar hv]

theorem decode_encode {v : Json} (hv : v.WellFormed) : decode (encode v) = some v :=
  decode_encode_of_determined hv.determined

/-- Two determined values with one text are equal. -/
theorem eq_of_encode_eq {v w : Json} (hv : v.Determined) (hw : w.Determined)
    (h : encode v = encode w) : v = w := by
  have hread := decode_encode_of_determined hv
  rw [h, decode_encode_of_determined hw] at hread
  exact (Option.some.inj hread).symm

/-- Two well-formed values with one text are equal. -/
theorem encode_injective {v w : Json} (hv : v.WellFormed) (hw : w.WellFormed)
    (h : encode v = encode w) : v = w :=
  eq_of_encode_eq hv.determined hw.determined h

/-! ### The first character -/

theorem not_isObj_of_parseFraction {neg : Bool} {r : List Char} {v : Json}
    (h : parseFraction neg n cs = some (v, r)) : v.isObj = false := by
  unfold parseFraction at h
  split at h
  · split at h
    · cases h
    dsimp only at h
    split at h
    · obtain ⟨_, -, heq⟩ := Option.map_eq_some_iff.1 h
      rw [← (Prod.mk.inj heq).1]
      rfl
    · obtain ⟨_, -, heq⟩ := Option.map_eq_some_iff.1 h
      rw [← (Prod.mk.inj heq).1]
      rfl
    · rw [← (Prod.mk.inj (Option.some.inj h)).1]
      rfl
  · obtain ⟨_, -, heq⟩ := Option.map_eq_some_iff.1 h
    rw [← (Prod.mk.inj heq).1]
    rfl
  · obtain ⟨_, -, heq⟩ := Option.map_eq_some_iff.1 h
    rw [← (Prod.mk.inj heq).1]
    rfl
  · rw [← (Prod.mk.inj (Option.some.inj h)).1]
    rfl

theorem isDigit_of_parseUnsigned {neg : Bool} {r : List Char} {v : Json}
    (h : parseUnsigned neg cs = some (v, r)) :
    v.isObj = false ∧ ∃ c l, cs = c :: l ∧ c.isDigit = true := by
  obtain ⟨⟨n, rest⟩, hnat, h⟩ := Option.bind_eq_some_iff.1 h
  refine ⟨not_isObj_of_parseFraction h, ?_⟩
  cases cs with
  | nil => cases hnat
  | cons c l =>
    refine ⟨c, l, rfl, ?_⟩
    by_contra hc
    rw [parseNat, digits, List.span_eq_takeWhile_dropWhile, List.takeWhile_cons_of_neg hc] at hnat
    cases hnat

theorem parseNumber_head {r : List Char} {v : Json} (h : parseNumber cs = some (v, r)) :
    v.isObj = false ∧ ∃ c l, cs = c :: l ∧ (c = '-' ∨ c.isDigit = true) := by
  unfold parseNumber at h
  split at h
  · exact ⟨(isDigit_of_parseUnsigned h).1, '-', _, rfl, .inl rfl⟩
  · obtain ⟨hobj, c, l, hcs, hc⟩ := isDigit_of_parseUnsigned h
    exact ⟨hobj, c, l, hcs, .inr hc⟩

def startsValue (c : Char) : Bool :=
  ['n', 't', 'f', '"', '[', '{', '-'].contains c || c.isDigit

/-- The first character of a value, which is a brace when the value is an object. -/
theorem parseValue_head {r : List Char} {v : Json} (h : parseValue n cs = some (v, r)) :
    ∃ c l, skipWs cs = c :: l ∧ startsValue c = true ∧ (v.isObj = true → c = '{') := by
  cases n with
  | zero => cases h
  | succ n =>
    unfold parseValue at h
    generalize skipWs cs = ds at h ⊢
    split at h
    · cases h
      exact ⟨_, _, rfl, by decide, fun hobj => absurd hobj Bool.false_ne_true⟩
    · cases h
      exact ⟨_, _, rfl, by decide, fun hobj => absurd hobj Bool.false_ne_true⟩
    · cases h
      exact ⟨_, _, rfl, by decide, fun hobj => absurd hobj Bool.false_ne_true⟩
    · obtain ⟨_, -, heq⟩ := Option.map_eq_some_iff.1 h
      cases heq
      exact ⟨_, _, rfl, by decide, fun hobj => absurd hobj Bool.false_ne_true⟩
    · refine ⟨_, _, rfl, by decide, fun hobj => ?_⟩
      split at h
      · cases h
        exact absurd hobj Bool.false_ne_true
      · obtain ⟨_, -, heq⟩ := Option.map_eq_some_iff.1 h
        cases heq
        exact absurd hobj Bool.false_ne_true
    · exact ⟨_, _, rfl, by decide, fun _ => rfl⟩
    · obtain ⟨hobj, c, l, rfl, hc⟩ := parseNumber_head h
      refine ⟨c, l, rfl, ?_, fun hv => absurd hv (by rw [hobj]; exact Bool.false_ne_true)⟩
      unfold startsValue
      rcases hc with rfl | hc
      · decide
      · rw [hc, Bool.or_true]

/-- The first character of a document: white space, or that of its value. -/
theorem decode_head {text : Text} {v : Json} (h : decode text = some v) :
    ∃ c l, text = c :: l ∧
      (isWs c = true ∨ startsValue c = true ∧ (v.isObj = true → c = '{')) := by
  unfold decode at h
  split at h
  swap
  · cases h
  next w r hparse =>
  split at h
  swap
  · cases h
  cases h
  obtain ⟨c, l, hskip, hstarts, hobj⟩ := parseValue_head hparse
  cases text with
  | nil => cases hskip
  | cons d text =>
    refine ⟨d, text, rfl, ?_⟩
    cases hd : isWs d with
    | true => exact .inl rfl
    | false =>
      rw [skipWs_cons hd] at hskip
      obtain ⟨rfl, -⟩ := List.cons.inj hskip
      exact .inr ⟨hstarts, hobj⟩

end Json

/-! ### Texts of integers -/

/-- `Integer.parse`: digits at the start, after a sign perhaps. -/
def parseInteger (s : String) : Option ℤ :=
  let (negative, cs) := match chars s with
    | '-' :: r => (true, r)
    | '+' :: r => (false, r)
    | r => (false, r)
  match Json.digits cs with
  | ([], _) => none
  | (ds, _) =>
    let n : ℤ := Nat.ofDigitChars 10 ds 0
    some (if negative then -n else n)

theorem parseInteger_toDigits (n : ℕ) :
    parseInteger (String.ofList (Nat.toDigits 10 n)) = some (n : ℤ) := by
  obtain ⟨c, l, hcl, hd⟩ := Json.toDigits_head n
  have hdigits : Json.digits (Nat.toDigits 10 n) = (Nat.toDigits 10 n, []) := by
    have hall : ∀ c ∈ Nat.toDigits 10 n, c.isDigit = true := fun c hc =>
      Nat.isDigit_of_mem_toDigits (by omega) (by omega) hc
    have hend : ∀ c ∈ ([] : List Char).head?, c.isDigit = false := fun c hc => by cases hc
    have h := Json.digits_append hall hend
    rwa [List.append_nil] at h
  have hvalue : (Nat.ofDigitChars 10 (c :: l) 0 : ℤ) = n := by
    rw [← hcl, Nat.ofDigitChars_ten_toDigits]
  have hminus : c ≠ '-' := by
    rintro rfl
    exact absurd hd (by decide)
  have hplus : c ≠ '+' := by
    rintro rfl
    exact absurd hd (by decide)
  rw [hcl] at hdigits
  rw [hcl, parseInteger, chars_eq_toList, String.toList_ofList]
  simp [hminus, hplus, hdigits, hvalue]

end Ansible
