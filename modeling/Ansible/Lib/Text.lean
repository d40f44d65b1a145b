import Mathlib.Data.List.Basic
import Mathlib.Algebra.Group.Nat.Defs

/-!
# Strings as bytes and as characters

A string of the modelled programs is a UTF-8 binary.  `bytes` is that binary and
`chars` reads the characters back from it; both are by structural recursion on
lists, so a closed text evaluates in time linear in its length.

## Main definitions

* `Binary` — a list of bytes; `Text` — a list of characters, `Text.utf8` its encoding.

## Main results

* `chars_eq_toList` — `chars` is the library's list of characters.
* `bytes_injective`, `Text.utf8_injective` — an encoding determines its string or text.
-/

namespace Ansible

/-- A binary: a list of bytes. -/
abbrev Binary := List UInt8

/-- A text that a program composes, as its characters. -/
abbrev Text := List Char

def Text.utf8 (t : Text) : Binary := t.flatMap String.utf8EncodeChar

/-- The UTF-8 encoding of a string. -/
def bytes (s : String) : Binary := s.toByteArray.data.toList

theorem bytes_ofList (l : List Char) :
    bytes (String.ofList l) = l.flatMap String.utf8EncodeChar := by
  rw [bytes, String.toByteArray_ofList, List.utf8Encode, List.data_toByteArray, List.toList_toArray]

theorem bytes_eq_utf8 (s : String) : bytes s = Text.utf8 s.toList := by
  rw [Text.utf8, ← bytes_ofList, String.ofList_toList]

/-- The characters a UTF-8 binary encodes, by the length its first byte announces. -/
def decodeUtf8 : Binary → Text
  | [] => []
  | a :: l =>
    if a.toNat < 128 then Char.ofNat a.toNat :: decodeUtf8 l
    else if a.toNat < 224 then
      match l with
      | b :: l => Char.ofNat (a.toNat % 32 * 64 + b.toNat % 64) :: decodeUtf8 l
      | _ => []
    else if a.toNat < 240 then
      match l with
      | b :: c :: l =>
        Char.ofNat (a.toNat % 16 * 4096 + b.toNat % 64 * 64 + c.toNat % 64) :: decodeUtf8 l
      | _ => []
    else
      match l with
      | b :: c :: d :: l =>
        Char.ofNat (a.toNat % 8 * 262144 + b.toNat % 64 * 4096 + c.toNat % 64 * 64 + d.toNat % 64)
          :: decodeUtf8 l
      | _ => []
termination_by structural bs => bs

theorem decodeUtf8_utf8EncodeChar_append (c : Char) (l : Binary) :
    decodeUtf8 (String.utf8EncodeChar c ++ l) = c :: decodeUtf8 l := by
  have hc : c.toNat < 1114112 := by
    rcases c.valid with h | h
    · exact Nat.lt_trans h (by decide)
    · exact h.2
  have hv : c.val.toNat = c.toNat := rfl
  have hof : ∀ n, n = c.toNat → Char.ofNat n = c := by
    rintro n rfl
    exact Char.ofNat_toNat c
  simp only [String.utf8EncodeChar, hv]
  split_ifs with h1 h2 h3
  · rw [decodeUtf8.eq_def]
    simp only [List.cons_append, List.nil_append, UInt8.toNat_ofNat']
    rw [if_pos (by omega), hof _ (by omega)]
  · rw [decodeUtf8.eq_def]
    simp only [List.cons_append, List.nil_append, UInt8.toNat_ofNat']
    rw [if_neg (by omega), if_pos (by omega), hof _ (by omega)]
  · rw [decodeUtf8.eq_def]
    simp only [List.cons_append, List.nil_append, UInt8.toNat_ofNat']
    rw [if_neg (by omega), if_neg (by omega), if_pos (by omega), hof _ (by omega)]
  · have hlead : (c.toNat / 262144 % 8 + 240) % 2 ^ 8 = c.toNat / 262144 % 8 + 240 :=
      Nat.mod_eq_of_lt (by omega)
    have hnext : ∀ n, (n % 64 + 128) % 2 ^ 8 % 64 = n % 64 := by
      intro n
      omega
    rw [decodeUtf8.eq_def]
    simp only [List.cons_append, List.nil_append, UInt8.toNat_ofNat', hlead, hnext]
    rw [if_neg (by omega), if_neg (by omega), if_neg (by omega), hof _ (by omega)]

theorem decodeUtf8_utf8 (t : Text) : decodeUtf8 t.utf8 = t := by
  induction t with
  | nil => rfl
  | cons c t ih =>
    rw [Text.utf8, List.flatMap_cons, decodeUtf8_utf8EncodeChar_append, ← Text.utf8, ih]

theorem utf8_cons_of_ascii {c : Char} (h : c.toNat < 128) (l : Text) :
    Text.utf8 (c :: l) = UInt8.ofNat c.toNat :: Text.utf8 l := by
  have hle : c.val.toNat ≤ 0x7f := by
    have hv : c.val.toNat = c.toNat := rfl
    omega
  rw [Text.utf8, List.flatMap_cons, String.utf8EncodeChar, if_pos hle]
  rfl

/-- A byte of ASCII encodes the character with its number, and is part of no other encoding. -/
theorem toNat_of_mem_utf8EncodeChar {b : UInt8} (hb : b.toNat < 128) {c : Char}
    (h : b ∈ String.utf8EncodeChar c) : c.toNat = b.toNat := by
  have hv : c.val.toNat = c.toNat := rfl
  simp only [String.utf8EncodeChar, hv] at h
  split_ifs at h with h1 h2 h3
  all_goals
    simp only [List.mem_cons, List.not_mem_nil, or_false] at h
    have hmem : ∀ n, b = UInt8.ofNat n → b.toNat = n % 256 := by
      rintro n rfl
      exact UInt8.toNat_ofNat'
  · have hval := hmem _ h
    omega
  · rcases h with h | h <;>
    · have hval := hmem _ h
      omega
  · rcases h with h | h | h <;>
    · have hval := hmem _ h
      omega
  · rcases h with h | h | h | h <;>
    · have hval := hmem _ h
      omega

/-- A text is determined by its encoding. -/
theorem Text.utf8_injective {t u : Text} (h : t.utf8 = u.utf8) : t = u := by
  rw [← decodeUtf8_utf8 t, h, decodeUtf8_utf8]

/-- The characters of a string. -/
def chars (s : String) : Text := decodeUtf8 (bytes s)

theorem chars_eq_toList (s : String) : chars s = s.toList := by
  rw [chars, bytes_eq_utf8, decodeUtf8_utf8]

@[simp] theorem chars_ofList (l : List Char) : chars (String.ofList l) = l := by
  rw [chars_eq_toList, String.toList_ofList]

@[simp] theorem ofList_chars (s : String) : String.ofList (chars s) = s := by
  rw [chars_eq_toList, String.ofList_toList]

theorem bytes_injective {s t : String} (h : bytes s = bytes t) : s = t := by
  rw [← ofList_chars s, chars, h, ← chars, ofList_chars]

end Ansible
