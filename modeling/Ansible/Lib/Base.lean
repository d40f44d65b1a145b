import Ansible.Lib.Text

/-!
# Base encodings and byte classes

The hexadecimal and base-32 encodings of binaries, and the byte classes that
anchored regular expressions such as `\A[0-9a-f]{64}\z` test.

## Main definitions

* `decode16`, `encode16` — hexadecimal, either case read and lower case written.
* `encode32` — base 32, lower case and without padding; `decode64` — base 64.
* `isHex`, `isLowerHex`, `isBase32` — the byte classes `[0-9a-fA-F]`, `[0-9a-f]`
  and `[a-z2-7]`.
* `isBlank` — a string of white space only; `fitsVarchar` — one that a column can hold.

## Main results

* `length_encode32` — base 32 writes one digit for every five bits, rounded up.
* `isBlank_of_decode16` — text with a hexadecimal reading is not blank.
* `length_decode16` — two digits for each byte.
* `decode16_encode16` — hexadecimal is read back; `decode64_cons` — where base 64 starts.
-/

namespace Ansible

/-! ### Byte classes -/

/-- `[0-9]` -/
def isDigitByte (b : UInt8) : Bool := 48 ≤ b.toNat && b.toNat ≤ 57

/-- `[0-9a-f]` -/
def isLowerHex (b : UInt8) : Bool := isDigitByte b || (97 ≤ b.toNat && b.toNat ≤ 102)

/-- `[0-9a-fA-F]` -/
def isHex (b : UInt8) : Bool := isLowerHex b || (65 ≤ b.toNat && b.toNat ≤ 70)

/-- `[a-z2-7]` -/
def isBase32 (b : UInt8) : Bool :=
  (97 ≤ b.toNat && b.toNat ≤ 122) || (50 ≤ b.toNat && b.toNat ≤ 55)

/-- `[a-zA-Z0-9]` -/
def isAlphanum (b : UInt8) : Bool :=
  isDigitByte b || (97 ≤ b.toNat && b.toNat ≤ 122) || (65 ≤ b.toNat && b.toNat ≤ 90)

/-- What follows `pre` in `s`, when `s` starts with it. -/
def afterPrefix (pre s : Binary) : Option Binary :=
  if pre.isPrefixOf s then some (s.drop pre.length) else none

/-! ### White space -/

/-- The code points with the Unicode property `White_Space`. -/
def isWhiteSpace (c : Char) : Bool :=
  let n := c.toNat
  (9 ≤ n && n ≤ 13) || n == 0x20 || n == 0x85 || n == 0xA0 || n == 0x1680 ||
    (0x2000 ≤ n && n ≤ 0x200A) || n == 0x2028 || n == 0x2029 || n == 0x202F || n == 0x205F ||
    n == 0x3000

/-- Nothing is left of the string once leading white space is trimmed. -/
def isBlank (s : String) : Bool := (chars s).all isWhiteSpace

/-- A value that a `varchar(255)` column can hold. -/
def fitsVarchar (s : String) : Bool :=
  decide ((chars s).length ≤ 255) && !(chars s).contains (Char.ofNat 0)

/-- A value that a `text` column can hold. -/
def fitsText (s : String) : Bool := !(chars s).contains (Char.ofNat 0)

/-! ### Hexadecimal -/

/-- The value of a hexadecimal digit of either case. -/
def hexNibble (b : UInt8) : Option ℕ :=
  let n := b.toNat
  if 48 ≤ n ∧ n ≤ 57 then some (n - 48)
  else if 97 ≤ n ∧ n ≤ 102 then some (n - 87)
  else if 65 ≤ n ∧ n ≤ 70 then some (n - 55)
  else none

def decode16 : Binary → Option Binary
  | [] => some []
  | [_] => none
  | a :: b :: r => do
    let hi ← hexNibble a
    let lo ← hexNibble b
    return UInt8.ofNat (hi * 16 + lo) :: (← decode16 r)

/-- Two lower-case digits for each byte. -/
def encode16 (b : Binary) : Text :=
  b.flatMap fun x => [(x.toNat / 16).digitChar, (x.toNat % 16).digitChar]

theorem length_decode16 : ∀ {b c : Binary}, decode16 b = some c → b.length = 2 * c.length
  | [], c, h => by
    obtain rfl : [] = c := Option.some.inj h
    rfl
  | [_], c, h => by simp [decode16] at h
  | a :: b :: r, c, h => by
    simp only [decode16, Option.bind_eq_bind, Option.bind_eq_some_iff, Option.pure_def,
      Option.some.injEq] at h
    obtain ⟨hi, -, lo, -, d, hd, rfl⟩ := h
    have := length_decode16 hd
    simp only [List.length_cons]
    omega

theorem hexNibble_digitChar {n : ℕ} (hn : n < 16) :
    ∃ b, String.utf8EncodeChar n.digitChar = [b] ∧ hexNibble b = some n := by
  have hall : ∀ m : ℕ, m < 16 → (String.utf8EncodeChar m.digitChar).length = 1 ∧
      hexNibble ((String.utf8EncodeChar m.digitChar).headD 0) = some m := by decide +kernel
  obtain ⟨hlen, hnibble⟩ := hall n hn
  obtain ⟨b, hb⟩ := List.length_eq_one_iff.1 hlen
  rw [hb] at hnibble
  exact ⟨b, hb, hnibble⟩

/-- The hexadecimal text of bytes reads back as these bytes. -/
theorem decode16_encode16 (b : Binary) : decode16 (encode16 b).utf8 = some b := by
  induction b with
  | nil => rfl
  | cons x b ih =>
    have hx : x.toNat < 256 := x.toNat_lt
    obtain ⟨hi, hhi, hhi'⟩ := hexNibble_digitChar (n := x.toNat / 16) (by omega)
    obtain ⟨lo, hlo, hlo'⟩ := hexNibble_digitChar (n := x.toNat % 16) (by omega)
    have hsplit : (encode16 (x :: b)).utf8 = hi :: lo :: (encode16 b).utf8 := by
      rw [encode16, List.flatMap_cons, ← encode16, List.cons_append, List.cons_append,
        List.nil_append, Text.utf8, List.flatMap_cons, List.flatMap_cons, ← Text.utf8, hhi, hlo]
      rfl
    have hvalue : UInt8.ofNat (x.toNat / 16 * 16 + x.toNat % 16) = x := by
      rw [Nat.div_add_mod', UInt8.ofNat_toNat]
    rw [hsplit, decode16, hhi', hlo', ih]
    simp only [Option.bind_eq_bind, Option.bind_some, Option.pure_def, hvalue]

theorem not_isWhiteSpace_of_hexNibble {b : UInt8} {n : ℕ} (h : hexNibble b = some n) :
    b.toNat < 128 ∧ isWhiteSpace (Char.ofNat b.toNat) = false := by
  have hr : (48 ≤ b.toNat ∧ b.toNat ≤ 57) ∨ (97 ≤ b.toNat ∧ b.toNat ≤ 102) ∨
      (65 ≤ b.toNat ∧ b.toNat ≤ 70) := by
    unfold hexNibble at h
    dsimp only at h
    split_ifs at h with h1 h2 h3
    · exact .inl h1
    · exact .inr (.inl h2)
    · exact .inr (.inr h3)
  have hall : ∀ m : ℕ, m < 128 → ((48 ≤ m ∧ m ≤ 57) ∨ (97 ≤ m ∧ m ≤ 102) ∨ (65 ≤ m ∧ m ≤ 70)) →
      isWhiteSpace (Char.ofNat m) = false := by decide +kernel
  exact ⟨by omega, hall _ (by omega) hr⟩

/-- Text with a hexadecimal reading is not blank. -/
theorem isBlank_of_decode16 {s : String} {x : UInt8} {c : Binary}
    (h : decode16 (bytes s) = some (x :: c)) : isBlank s = false := by
  cases hb : bytes s with
  | nil => simp [hb, decode16] at h
  | cons a r =>
    cases r with
    | nil => simp [hb, decode16] at h
    | cons b r =>
      simp only [hb, decode16, Option.bind_eq_bind, Option.bind_eq_some_iff] at h
      obtain ⟨hi, hhi, -⟩ := h
      obtain ⟨hlt, hws⟩ := not_isWhiteSpace_of_hexNibble hhi
      rw [isBlank, chars, hb, decodeUtf8.eq_def]
      simp [hlt, hws]

/-! ### Base 64 -/

/-- The value of a digit of the standard alphabet. -/
def base64Value (b : UInt8) : Option ℕ :=
  let n := b.toNat
  if 65 ≤ n ∧ n ≤ 90 then some (n - 65)
  else if 97 ≤ n ∧ n ≤ 122 then some (n - 71)
  else if 48 ≤ n ∧ n ≤ 57 then some (n + 4)
  else if n = 43 then some 62
  else if n = 47 then some 63
  else none

/-- Groups of four digits, the last one padded. -/
def decode64 : Binary → Option Binary
  | [] => some []
  | a :: b :: c :: d :: r => do
    let x ← base64Value a
    let y ← base64Value b
    if c = 61 ∧ d = 61 ∧ r = [] then return [UInt8.ofNat (x * 4 + y / 16)]
    let z ← base64Value c
    if d = 61 ∧ r = [] then
      return [UInt8.ofNat (x * 4 + y / 16), UInt8.ofNat (y % 16 * 16 + z / 4)]
    let w ← base64Value d
    return UInt8.ofNat (x * 4 + y / 16) :: UInt8.ofNat (y % 16 * 16 + z / 4)
      :: UInt8.ofNat (z % 4 * 64 + w) :: (← decode64 r)
  | _ => none

theorem base64Value_lt {b : UInt8} {n : ℕ} (h : base64Value b = some n) : n < 64 := by
  unfold base64Value at h
  dsimp only at h
  split_ifs at h <;> have hn := Option.some.inj h <;> omega

/-- The first byte of a decoded text is made of the first digit, and a part of the second. -/
theorem decode64_cons {a : UInt8} {r b : Binary} (h : decode64 (a :: r) = some b) :
    ∃ n x l, base64Value a = some n ∧ b = x :: l ∧ x.toNat / 4 = n := by
  have hbyte : ∀ {m n : ℕ}, m < 64 → n < 64 → (UInt8.ofNat (m * 4 + n / 16)).toNat / 4 = m := by
    intro m n hm hn
    rw [UInt8.toNat_ofNat']
    omega
  unfold decode64 at h
  split at h
  · next heq => cases heq
  · next a' b' c' d' r' heq =>
    obtain ⟨rfl, rfl⟩ := List.cons.inj heq
    obtain ⟨m, hm, h⟩ := Option.bind_eq_some_iff.1 h
    obtain ⟨n, hn, h⟩ := Option.bind_eq_some_iff.1 h
    have hfirst := hbyte (base64Value_lt hm) (base64Value_lt hn)
    split at h
    · exact ⟨m, _, _, hm, (Option.some.inj h).symm, hfirst⟩
    obtain ⟨_, -, h⟩ := Option.bind_eq_some_iff.1 h
    split at h
    · exact ⟨m, _, _, hm, (Option.some.inj h).symm, hfirst⟩
    obtain ⟨_, -, h⟩ := Option.bind_eq_some_iff.1 h
    obtain ⟨_, -, h⟩ := Option.bind_eq_some_iff.1 h
    exact ⟨m, _, _, hm, (Option.some.inj h).symm, hfirst⟩
  · cases h

/-! ### Base 32 -/

/-- The number whose big-endian bytes are `b`. -/
def toNatBE (b : Binary) : ℕ := b.foldl (fun n x => n * 256 + x.toNat) 0

/-- The base-32 digit of `n`: the letters, then `2` to `7`. -/
def base32Digit (n : ℕ) : Char := Char.ofNat (if n < 26 then 97 + n else 24 + n)

/-- The digits of the bits of `b`, five at a time from the most significant one, the
last group filled with zero bits. -/
def encode32 (b : Binary) : Text :=
  let n := (8 * b.length + 4) / 5
  let v := toNatBE b * 2 ^ (5 * n - 8 * b.length)
  (List.range n).map fun i => base32Digit (v / 32 ^ (n - 1 - i) % 32)

@[simp] theorem length_encode32 (b : Binary) : (encode32 b).length = (8 * b.length + 4) / 5 := by
  simp [encode32]

end Ansible
