import Ansible.Lib.Base

/-!
# Base 64 for addresses

The alphabet that is safe in addresses, written without padding and read with or without it.
The decoder of Dart reads both alphabets, with padding only.

## Main definitions

* `encodeUrl64`, `decodeUrl64` — the two directions.
* `decodeDart64` — `base64Decode` of Dart.
* `decodeNormalized64` — `base64Url.decode(base64Url.normalize(..))` of Dart, which adds a missing
  padding.

## Main results

* `decodeUrl64_encodeUrl64`, `decodeNormalized64_encodeUrl64` — **what is written is read back.**
-/

namespace Ansible

/-- The value of a digit of the safe alphabet. -/
def urlBase64Value (b : UInt8) : Option ℕ :=
  if b = 45 then some 62
  else if b = 95 then some 63
  else if b = 43 ∨ b = 47 then none
  else base64Value b

/-- Groups of four digits; the last one may be short, or padded. -/
def decodeUrl64 : Binary → Option Binary
  | [] => some []
  | [a, b] => do
    let x ← urlBase64Value a
    let y ← urlBase64Value b
    return [UInt8.ofNat (x * 4 + y / 16)]
  | [a, b, c] => do
    let x ← urlBase64Value a
    let y ← urlBase64Value b
    let z ← urlBase64Value c
    return [UInt8.ofNat (x * 4 + y / 16), UInt8.ofNat (y % 16 * 16 + z / 4)]
  | a :: b :: c :: d :: r => do
    let x ← urlBase64Value a
    let y ← urlBase64Value b
    if c = 61 ∧ d = 61 ∧ r = [] then return [UInt8.ofNat (x * 4 + y / 16)]
    let z ← urlBase64Value c
    if d = 61 ∧ r = [] then
      return [UInt8.ofNat (x * 4 + y / 16), UInt8.ofNat (y % 16 * 16 + z / 4)]
    let w ← urlBase64Value d
    return UInt8.ofNat (x * 4 + y / 16) :: UInt8.ofNat (y % 16 * 16 + z / 4)
      :: UInt8.ofNat (z % 4 * 64 + w) :: (← decodeUrl64 r)
  | _ => none

/-! ### Both alphabets -/

/-- A padding sign may be escaped. -/
def unescapePadding : Binary → Binary
  | a :: b :: c :: r =>
    if a = 37 ∧ b = 51 ∧ (c = 68 ∨ c = 100) then 61 :: unescapePadding r
    else a :: unescapePadding (b :: c :: r)
  | r => r

/-- Groups of four digits, the last one padded and without bits to spare. -/
def decodeBoth64 : Binary → Option Binary
  | [] => some []
  | a :: b :: c :: d :: r => do
    let x ← (base64Value a).or (urlBase64Value a)
    let y ← (base64Value b).or (urlBase64Value b)
    if c = 61 ∧ d = 61 ∧ r = [] then
      if y % 16 = 0 then return [UInt8.ofNat (x * 4 + y / 16)] else none
    else
      let z ← (base64Value c).or (urlBase64Value c)
      if d = 61 ∧ r = [] then
        if z % 4 = 0 then
          return [UInt8.ofNat (x * 4 + y / 16), UInt8.ofNat (y % 16 * 16 + z / 4)]
        else none
      else
        let w ← (base64Value d).or (urlBase64Value d)
        return UInt8.ofNat (x * 4 + y / 16) :: UInt8.ofNat (y % 16 * 16 + z / 4)
          :: UInt8.ofNat (z % 4 * 64 + w) :: (← decodeBoth64 r)
  | _ => none

def decodeDart64 (b : Binary) : Option Binary := decodeBoth64 (unescapePadding b)

/-- Any character may be escaped, but for the percent sign. -/
def unescape64 : Binary → Option Binary
  | 37 :: a :: b :: r => do
    let hi ← hexNibble a
    let lo ← hexNibble b
    let c := UInt8.ofNat (hi * 16 + lo)
    if c = 37 then none else return c :: (← unescape64 r)
  | 37 :: _ => none
  | c :: r => do return c :: (← unescape64 r)
  | [] => some []

/-- The last group is padded, if there is no padding yet. -/
def pad64 (b : Binary) : Binary :=
  if (61 : UInt8) ∈ b then b
  else if b.length % 4 = 2 then b ++ [61, 61]
  else if b.length % 4 = 3 then b ++ [61]
  else b

def decodeNormalized64 (b : Binary) : Option Binary := do decodeBoth64 (pad64 (← unescape64 b))

/-! ### Writing -/

/-- The digit of a value below 64. -/
def urlBase64Digit (n : ℕ) : Char :=
  Char.ofNat (if n < 26 then n + 65 else if n < 52 then n + 71 else if n < 62 then n - 4
    else if n = 62 then 45 else 95)

def encodeUrl64 : Binary → Text
  | [] => []
  | [a] => [urlBase64Digit (a.toNat / 4), urlBase64Digit (a.toNat % 4 * 16)]
  | [a, b] =>
    [urlBase64Digit (a.toNat / 4), urlBase64Digit (a.toNat % 4 * 16 + b.toNat / 16),
      urlBase64Digit (b.toNat % 16 * 4)]
  | a :: b :: c :: r =>
    urlBase64Digit (a.toNat / 4) :: urlBase64Digit (a.toNat % 4 * 16 + b.toNat / 16) ::
      urlBase64Digit (b.toNat % 16 * 4 + c.toNat / 64) :: urlBase64Digit (c.toNat % 64) ::
        encodeUrl64 r

example : encodeUrl64 [251, 255, 1, 2] = "-_8BAg".toList := by decide

example : decodeUrl64 (bytes "-_8BAg") = some [251, 255, 1, 2] := by decide

example : decodeNormalized64 (bytes "%2D/8B%41g==") = some [251, 255, 1, 2] := by decide

/-! ### What is written is read back -/

def urlBase64Byte (n : ℕ) : UInt8 := UInt8.ofNat (urlBase64Digit n).toNat

theorem urlBase64Digit_spec {n : ℕ} (hn : n < 64) : (urlBase64Digit n).toNat < 128 ∧
    urlBase64Value (urlBase64Byte n) = some n ∧
    (base64Value (urlBase64Byte n)).or (urlBase64Value (urlBase64Byte n)) = some n ∧
    urlBase64Byte n ≠ 61 ∧ urlBase64Byte n ≠ 37 := by
  have hall : ∀ m < 64, (urlBase64Digit m).toNat < 128 ∧
      urlBase64Value (urlBase64Byte m) = some m ∧
      (base64Value (urlBase64Byte m)).or (urlBase64Value (urlBase64Byte m)) = some m ∧
      urlBase64Byte m ≠ 61 ∧ urlBase64Byte m ≠ 37 := by decide +kernel
  exact hall n hn

theorem utf8_urlBase64Digit {n : ℕ} (hn : n < 64) (l : Text) :
    Text.utf8 (urlBase64Digit n :: l) = urlBase64Byte n :: Text.utf8 l :=
  utf8_cons_of_ascii (urlBase64Digit_spec hn).1 l

/-- The bytes of the digits of a binary. -/
def urlBase64Bytes : Binary → Binary
  | [] => []
  | [a] => [urlBase64Byte (a.toNat / 4), urlBase64Byte (a.toNat % 4 * 16)]
  | [a, b] =>
    [urlBase64Byte (a.toNat / 4), urlBase64Byte (a.toNat % 4 * 16 + b.toNat / 16),
      urlBase64Byte (b.toNat % 16 * 4)]
  | a :: b :: c :: r =>
    urlBase64Byte (a.toNat / 4) :: urlBase64Byte (a.toNat % 4 * 16 + b.toNat / 16) ::
      urlBase64Byte (b.toNat % 16 * 4 + c.toNat / 64) :: urlBase64Byte (c.toNat % 64) ::
        urlBase64Bytes r

/-- The padding that is left out. -/
def padding64 : Binary → Binary
  | [_] => [61, 61]
  | [_, _] => [61]
  | _ :: _ :: _ :: r => padding64 r
  | [] => []

variable (b : Binary)

theorem utf8_encodeUrl64 : (encodeUrl64 b).utf8 = urlBase64Bytes b := by
  induction b using encodeUrl64.induct with
  | case1 => rfl
  | case2 a =>
    have ha := a.toNat_lt
    rw [encodeUrl64, utf8_urlBase64Digit (by omega), utf8_urlBase64Digit (by omega)]
    rfl
  | case3 a b =>
    have ha := a.toNat_lt
    have hb := b.toNat_lt
    rw [encodeUrl64, utf8_urlBase64Digit (by omega), utf8_urlBase64Digit (by omega),
      utf8_urlBase64Digit (by omega)]
    rfl
  | case4 a b c r ih =>
    have ha := a.toNat_lt
    have hb := b.toNat_lt
    have hc := c.toNat_lt
    rw [encodeUrl64, utf8_urlBase64Digit (by omega), utf8_urlBase64Digit (by omega),
      utf8_urlBase64Digit (by omega), utf8_urlBase64Digit (by omega), ih, urlBase64Bytes]

theorem not_mem_urlBase64Bytes :
    (61 : UInt8) ∉ urlBase64Bytes b ∧ (37 : UInt8) ∉ urlBase64Bytes b := by
  have hne : ∀ {n : ℕ}, n < 64 → (61 : UInt8) ≠ urlBase64Byte n ∧ (37 : UInt8) ≠ urlBase64Byte n :=
    fun hn => ⟨(urlBase64Digit_spec hn).2.2.2.1.symm, (urlBase64Digit_spec hn).2.2.2.2.symm⟩
  induction b using urlBase64Bytes.induct with
  | case1 => simp [urlBase64Bytes]
  | case2 a =>
    have ha := a.toNat_lt
    simp [urlBase64Bytes, hne (show a.toNat / 4 < 64 by omega),
      hne (show a.toNat % 4 * 16 < 64 by omega)]
  | case3 a b =>
    have ha := a.toNat_lt
    have hb := b.toNat_lt
    simp [urlBase64Bytes, hne (show a.toNat / 4 < 64 by omega),
      hne (show a.toNat % 4 * 16 + b.toNat / 16 < 64 by omega),
      hne (show b.toNat % 16 * 4 < 64 by omega)]
  | case4 a b c r ih =>
    have ha := a.toNat_lt
    have hb := b.toNat_lt
    have hc := c.toNat_lt
    simp [urlBase64Bytes, ih, hne (show a.toNat / 4 < 64 by omega),
      hne (show a.toNat % 4 * 16 + b.toNat / 16 < 64 by omega),
      hne (show b.toNat % 16 * 4 + c.toNat / 64 < 64 by omega),
      hne (show c.toNat % 64 < 64 by omega)]

theorem length_urlBase64Bytes :
    ((urlBase64Bytes b).length % 4 = 0 ∧ padding64 b = []) ∨
    ((urlBase64Bytes b).length % 4 = 2 ∧ padding64 b = [61, 61]) ∨
    ((urlBase64Bytes b).length % 4 = 3 ∧ padding64 b = [61]) := by
  induction b using urlBase64Bytes.induct with
  | case1 => exact .inl ⟨rfl, rfl⟩
  | case2 a => exact .inr (.inl ⟨rfl, rfl⟩)
  | case3 a b => exact .inr (.inr ⟨rfl, rfl⟩)
  | case4 a b c r ih =>
    have hlen : (urlBase64Bytes (a :: b :: c :: r)).length = (urlBase64Bytes r).length + 4 := rfl
    rw [hlen, Nat.add_mod_right, padding64]
    exact ih

theorem pad64_urlBase64Bytes : pad64 (urlBase64Bytes b) = urlBase64Bytes b ++ padding64 b := by
  rw [pad64, if_neg (not_mem_urlBase64Bytes b).1]
  rcases length_urlBase64Bytes b with ⟨hlen, hpad⟩ | ⟨hlen, hpad⟩ | ⟨hlen, hpad⟩
  · rw [hpad, if_neg (by omega), if_neg (by omega), List.append_nil]
  · rw [hpad, if_pos hlen]
  · rw [hpad, if_neg (by omega), if_pos hlen]

theorem unescape64_of_not_mem : ∀ {b : Binary}, (37 : UInt8) ∉ b → unescape64 b = some b
  | [], _ => rfl
  | c :: r, h => by
    rw [List.mem_cons, not_or] at h
    have hc : c ≠ 37 := fun hc => h.1 hc.symm
    rw [unescape64.eq_def]
    split
    · next heq => exact absurd (List.cons.inj heq).1 hc
    · next heq => exact absurd (List.cons.inj heq).1 hc
    · next heq =>
      obtain ⟨rfl, rfl⟩ := List.cons.inj heq
      rw [unescape64_of_not_mem h.2]
      rfl
    · next heq => cases heq

/-- The bytes that four digits stand for. -/
theorem ofNat_digits (a b c : UInt8) :
    UInt8.ofNat (a.toNat / 4 * 4 + (a.toNat % 4 * 16 + b.toNat / 16) / 16) = a ∧
    UInt8.ofNat ((a.toNat % 4 * 16 + b.toNat / 16) % 16 * 16
      + (b.toNat % 16 * 4 + c.toNat / 64) / 4) = b ∧
    UInt8.ofNat ((b.toNat % 16 * 4 + c.toNat / 64) % 4 * 64 + c.toNat % 64) = c := by
  have ha := a.toNat_lt
  have hb := b.toNat_lt
  have hc := c.toNat_lt
  have h1 : a.toNat / 4 * 4 + (a.toNat % 4 * 16 + b.toNat / 16) / 16 = a.toNat := by omega
  have h2 : (a.toNat % 4 * 16 + b.toNat / 16) % 16 * 16
      + (b.toNat % 16 * 4 + c.toNat / 64) / 4 = b.toNat := by omega
  have h3 : (b.toNat % 16 * 4 + c.toNat / 64) % 4 * 64 + c.toNat % 64 = c.toNat := by omega
  rw [h1, h2, h3]
  exact ⟨UInt8.ofNat_toNat, UInt8.ofNat_toNat, UInt8.ofNat_toNat⟩

theorem decode_urlBase64Bytes : decodeUrl64 (urlBase64Bytes b) = some b ∧
    decodeBoth64 (urlBase64Bytes b ++ padding64 b) = some b := by
  induction b using urlBase64Bytes.induct with
  | case1 => exact ⟨rfl, rfl⟩
  | case2 a =>
    have ha := a.toNat_lt
    have h1 := urlBase64Digit_spec (n := a.toNat / 4) (by omega)
    have h2 := urlBase64Digit_spec (n := a.toNat % 4 * 16) (by omega)
    have hbyte := congrArg (fun x => some [x]) (ofNat_digits a 0 0).1
    constructor
    · simp only [urlBase64Bytes, decodeUrl64, h1.2.1, h2.2.1, Option.bind_eq_bind,
        Option.bind_some, Option.pure_def]
      exact hbyte
    · simp only [urlBase64Bytes, padding64, List.cons_append, List.nil_append, decodeBoth64,
        h1.2.2.1, h2.2.2.1, and_self, if_true, Option.bind_eq_bind, Option.bind_some,
        Option.pure_def]
      rw [if_pos (by omega)]
      exact hbyte
  | case3 a b =>
    have ha := a.toNat_lt
    have hb := b.toNat_lt
    have h1 := urlBase64Digit_spec (n := a.toNat / 4) (by omega)
    have h2 := urlBase64Digit_spec (n := a.toNat % 4 * 16 + b.toNat / 16) (by omega)
    have h3 := urlBase64Digit_spec (n := b.toNat % 16 * 4) (by omega)
    obtain ⟨hx, hy, -⟩ := ofNat_digits a b 0
    have hbytes := congrArg (fun x => some [a, x]) hy
    constructor
    · simp only [urlBase64Bytes, decodeUrl64, h1.2.1, h2.2.1, h3.2.1, Option.bind_eq_bind,
        Option.bind_some, Option.pure_def, hx]
      exact hbytes
    · simp only [urlBase64Bytes, padding64, List.cons_append, List.nil_append, decodeBoth64,
        h1.2.2.1, h2.2.2.1, h3.2.2.1, h3.2.2.2.1, false_and, if_false, and_self, if_true,
        Option.bind_eq_bind, Option.bind_some, Option.pure_def, hx]
      rw [if_pos (by omega)]
      exact hbytes
  | case4 a b c r ih =>
    have ha := a.toNat_lt
    have hb := b.toNat_lt
    have hc := c.toNat_lt
    have h1 := urlBase64Digit_spec (n := a.toNat / 4) (by omega)
    have h2 := urlBase64Digit_spec (n := a.toNat % 4 * 16 + b.toNat / 16) (by omega)
    have h3 := urlBase64Digit_spec (n := b.toNat % 16 * 4 + c.toNat / 64) (by omega)
    have h4 := urlBase64Digit_spec (n := c.toNat % 64) (by omega)
    obtain ⟨hx, hy, hz⟩ := ofNat_digits a b c
    constructor
    · simp only [urlBase64Bytes, decodeUrl64, h1.2.1, h2.2.1, h3.2.1, h4.2.1, h3.2.2.2.1,
        h4.2.2.2.1, false_and, if_false, Option.bind_eq_bind, Option.bind_some, Option.pure_def,
        ih.1, hx, hy, hz]
    · simp only [urlBase64Bytes, padding64, List.cons_append, decodeBoth64, h1.2.2.1, h2.2.2.1,
        h3.2.2.1, h4.2.2.1, h3.2.2.2.1, h4.2.2.2.1, false_and, if_false, Option.bind_eq_bind,
        Option.bind_some, Option.pure_def, ih.2, hx, hy, hz]

/-- **The bytes of a text without padding are read back.** -/
theorem decodeUrl64_encodeUrl64 : decodeUrl64 (encodeUrl64 b).utf8 = some b := by
  rw [utf8_encodeUrl64, (decode_urlBase64Bytes b).1]

/-- **Dart reads them back**, with the padding that it adds. -/
theorem decodeNormalized64_encodeUrl64 : decodeNormalized64 (encodeUrl64 b).utf8 = some b := by
  rw [decodeNormalized64, utf8_encodeUrl64, unescape64_of_not_mem (not_mem_urlBase64Bytes b).2,
    Option.bind_eq_bind, Option.bind_some, pad64_urlBase64Bytes,
    (decode_urlBase64Bytes b).2]

end Ansible
