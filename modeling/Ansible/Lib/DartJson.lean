import Ansible.Lib.JsonParse

/-!
# JSON as Dart writes it

`jsonEncode` escapes the characters that Jason escapes and has the same short forms.  The digits of
the other escapes are lower case, where Jason writes capitals.

## Main definitions

* `codeUnits`, `unhexText` — a string as Dart compares it, and as hexadecimal.
* `DartJson.encode` — the text of a value.
* `DartJson.canonicalJson` — the text with the members of every object in the order of their keys.

## Main results

* `DartJson.decode_encode` — **decoding inverts what Dart writes.**
* `Json.delimited_of_readBack` — a string ends where it is read to end.
* `DartJson.encodeString_eq_iff` — **the two write a string in the same way exactly when no letter
  occurs in its escapes.**
* `Json.Delimited.join_inj` — **the text of an object with given keys determines its strings.**
-/

namespace Ansible

/-- The code units of a character. -/
def utf16 (c : Char) : List ℕ :=
  if c.toNat < 0x10000 then [c.toNat]
  else [0xD800 + (c.toNat - 0x10000) / 0x400, 0xDC00 + (c.toNat - 0x10000) % 0x400]

def codeUnits (s : String) : List ℕ := (chars s).flatMap utf16

/-! ### Hexadecimal -/

/-- A hexadecimal digit of either case. -/
def hexUnit (u : ℕ) : Option ℕ := if u < 128 then hexNibble (UInt8.ofNat u) else none

def isSpaceUnit (u : ℕ) : Bool := isWhiteSpace (Char.ofNat u) || u == 0xFEFF

/-- `int.parse(.., radix: 16)` of two code units, kept as a byte: white space around the digits
and a sign before them are read too. -/
def parseByte (a b : ℕ) : Option UInt8 :=
  match hexUnit a, hexUnit b with
  | some x, some y => some (UInt8.ofNat (x * 16 + y))
  | some x, none => if isSpaceUnit b then some (UInt8.ofNat x) else none
  | none, some y =>
    if isSpaceUnit a ∨ a = 0x2B then some (UInt8.ofNat y)
    else if a = 0x2D then some (UInt8.ofNat (256 - y))
    else none
  | none, none => none

/-- Byte by byte; an odd unit at the end is left out. -/
def unhexUnits : List ℕ → Option Binary
  | a :: b :: rest => do
    let byte ← parseByte a b
    let bytes ← unhexUnits rest
    return byte :: bytes
  | _ => some []

/-- `_unhex`, which throws for another text. -/
def unhexText (hex : String) : Option Binary := unhexUnits (codeUnits hex)

namespace DartJson

/-! ### Text -/

/-- The two-character escapes, and `\u00xx` for the other control characters. -/
def escapeChar (c : Char) : Text :=
  if c = '"' then ['\\', '"']
  else if c = '\\' then ['\\', '\\']
  else if c = '\n' then ['\\', 'n']
  else if c = '\r' then ['\\', 'r']
  else if c = '\t' then ['\\', 't']
  else if c.toNat = 8 then ['\\', 'b']
  else if c.toNat = 12 then ['\\', 'f']
  else if c.toNat < 32 then ['\\', 'u', '0', '0', (c.toNat / 16).digitChar,
    (c.toNat % 16).digitChar]
  else [c]

/-- A string between quotes, escaped. -/
def encodeString (s : String) : Text := '"' :: ((chars s).flatMap escapeChar ++ ['"'])

mutual

/-- `jsonEncode` -/
def encode : Json → Text
  | .str s => encodeString s
  | .arr l => '[' :: (Json.commaSep (encodeElems l) ++ [']'])
  | .obj f => '{' :: (Json.commaSep (encodeFields f) ++ ['}'])
  | j => j.encode

def encodeElems : List Json → List Text
  | [] => []
  | v :: l => encode v :: encodeElems l

def encodeFields : List (String × Json) → List Text
  | [] => []
  | (k, v) :: l => (encodeString k ++ ':' :: encode v) :: encodeFields l

end

/-! ### Canonical text -/

def joinFields (entries : List (String × Text)) : Text :=
  '{' :: (Json.commaSep (entries.map fun kv => encodeString kv.1 ++ ':' :: kv.2) ++ ['}'])

mutual

/-- `_canonicalJson`: the keys in the order of their code units. -/
def canonicalJson : Json → Text
  | .obj f => joinFields ((canonicalFields f).insertionSort fun a b => codeUnits a.1
      ≤ codeUnits b.1)
  | .arr l => '[' :: (Json.commaSep (canonicalElems l) ++ [']'])
  | j => encode j

def canonicalElems : List Json → List Text
  | [] => []
  | v :: l => canonicalJson v :: canonicalElems l

def canonicalFields : List (String × Json) → List (String × Text)
  | [] => []
  | (k, v) :: l => (k, canonicalJson v) :: canonicalFields l

end

/-! ### Where the two differ -/

/-- A control character without a short form, one of whose digits is a letter. -/
def HasLetter (c : Char) : Prop := c.toNat ∈ [11, 14, 15, 26, 27, 28, 29, 30, 31]

instance : DecidablePred HasLetter := fun c => inferInstanceAs (Decidable (c.toNat ∈ _))

theorem digitChar_eq_toUpper_iff {n : ℕ} (hn : n < 16) :
    n.digitChar = n.digitChar.toUpper ↔ n < 10 := by
  revert n
  decide

theorem escapeChar_eq_iff (c : Char) :
    escapeChar c = Json.escapeChar c ↔ ¬ HasLetter c := by
  unfold escapeChar Json.escapeChar
  have hletter : HasLetter c ↔ c.toNat < 32 ∧ c.toNat ≠ 12 ∧ 10 < c.toNat ∧ c.toNat ≠ 13 ∧
      10 ≤ c.toNat % 16 := by
    simp only [HasLetter, List.mem_cons, List.not_mem_nil, or_false]
    omega
  have hreturn : c.toNat = 13 → c = '\r' := by
    intro h
    rw [← Char.ofNat_toNat c, h]
  by_cases h1 : c = '"'
  · subst h1; decide
  by_cases h2 : c = '\\'
  · subst h2; decide
  by_cases h3 : c = '\n'
  · subst h3; decide
  by_cases h4 : c = '\r'
  · subst h4; decide
  by_cases h5 : c = '\t'
  · subst h5; decide
  rw [if_neg h1, if_neg h2, if_neg h3, if_neg h4, if_neg h5, if_neg h1, if_neg h2, if_neg h3,
    if_neg h4, if_neg h5]
  by_cases h6 : c.toNat = 8
  · simp [hletter, h6]
  by_cases h7 : c.toNat = 12
  · simp [hletter, h7]
  rw [if_neg h6, if_neg h7, if_neg h6, if_neg h7]
  by_cases h8 : c.toNat < 32
  · rw [if_pos h8, if_pos h8]
    -- a short escape has no digits, and the first digit of the others is at most one
    have hhigh : (c.toNat / 16).digitChar = (c.toNat / 16).digitChar.toUpper :=
      (digitChar_eq_toUpper_iff (by omega)).2 (by omega)
    have hlow := digitChar_eq_toUpper_iff (show c.toNat % 16 < 16 by omega)
    simp only [List.cons.injEq, ← hhigh, true_and, and_true, hlow, hletter]
    have hten : c.toNat ≠ 10 := fun h => h3 (by rw [← Char.ofNat_toNat c, h])
    have hthirteen : c.toNat ≠ 13 := fun h => h4 (hreturn h)
    omega
  · rw [if_neg h8, if_neg h8]
    simp only [true_iff, hletter]
    omega

theorem length_escapeChar (c : Char) : (escapeChar c).length = (Json.escapeChar c).length := by
  simp only [escapeChar, Json.escapeChar, apply_ite List.length, List.length_cons, List.length_nil]

theorem flatMap_escapeChar_eq_iff (s : Text) :
    s.flatMap escapeChar = s.flatMap Json.escapeChar ↔ ∀ c ∈ s, ¬ HasLetter c := by
  induction s with
  | nil => simp
  | cons c s ih =>
    rw [List.flatMap_cons, List.flatMap_cons, List.forall_mem_cons, ← escapeChar_eq_iff, ← ih]
    constructor
    · exact fun h => List.append_inj h (length_escapeChar c)
    · rintro ⟨hc, hs⟩
      rw [hc, hs]

theorem length_encodeString (s : String) :
    (encodeString s).length = (Json.encodeString s).length := by
  simp only [encodeString, Json.encodeString, List.length_cons, List.length_append,
    List.length_flatMap, length_escapeChar]

/-- **The two write a string in the same way exactly when no letter occurs in its escapes.** -/
theorem encodeString_eq_iff (s : String) :
    encodeString s = Json.encodeString s ↔ ∀ c ∈ chars s, ¬ HasLetter c := by
  rw [← flatMap_escapeChar_eq_iff, encodeString, Json.encodeString, List.cons.injEq,
    List.append_left_inj, eq_self, true_and]

theorem hexVal_digitChar {n : ℕ} (hn : n < 16) : Json.hexVal n.digitChar = some n := by
  revert n
  decide

theorem parseString_escapeChar (c : Char) (r : Text) : Json.parseString (escapeChar c ++ r)
    = (Json.parseString r).map fun p => (c :: p.1, p.2) := by
  by_cases hc : HasLetter c
  · -- the escapes that differ are read from digits of either case
    have hcontrol : c.toNat < 32 ∧ c.toNat ≠ 8 ∧ c.toNat ≠ 12 ∧ c ≠ '\n' ∧ c ≠ '\r' ∧ c ≠ '\t' ∧
        c ≠ '"' ∧ c ≠ '\\' := by
      refine ⟨?_, ?_, ?_, ?_, ?_, ?_, ?_, ?_⟩
      · simp only [HasLetter, List.mem_cons, List.not_mem_nil, or_false] at hc
        omega
      all_goals
        intro h
        revert hc
        first | (subst h; decide) | (rw [HasLetter, h]; decide)
    obtain ⟨hlt, h8, h12, hn, hr, ht, hq, hb⟩ := hcontrol
    have h0 : Json.hexVal '0' = some 0 := by decide
    have hhex : Json.hex4 '0' '0' (c.toNat / 16).digitChar (c.toNat % 16).digitChar
        = some c.toNat := by
      simp only [Json.hex4, h0, hexVal_digitChar (show c.toNat / 16 < 16 by omega),
        hexVal_digitChar (show c.toNat % 16 < 16 by omega)]
      simp only [Option.bind_eq_bind, Option.bind_some, Option.pure_def, Option.some.injEq]
      omega
    rw [escapeChar, if_neg hq, if_neg hb, if_neg hn, if_neg hr, if_neg ht, if_neg h8, if_neg h12,
      if_pos hlt]
    simp only [List.cons_append, List.nil_append, Json.parseString, hhex]
    rw [if_neg (by omega), if_neg (by omega), Char.ofNat_toNat]
  · rw [(escapeChar_eq_iff c).2 hc, Json.parseString_escapeChar]

/-! ### Values are read back -/

mutual

theorem encodeWith_escapeChar : ∀ v : Json, Json.encodeWith escapeChar v = encode v
  | .null | .int _ | .float _ | .str _ => rfl
  | .bool _ => rfl
  | .arr l => by rw [Json.encodeWith, encode, encodeElemsWith_escapeChar l]
  | .obj f => by rw [Json.encodeWith, encode, encodeFieldsWith_escapeChar f]

theorem encodeElemsWith_escapeChar :
    ∀ l : List Json, Json.encodeElemsWith escapeChar l = encodeElems l
  | [] => rfl
  | v :: l => congrArg₂ List.cons (encodeWith_escapeChar v) (encodeElemsWith_escapeChar l)

theorem encodeFieldsWith_escapeChar :
    ∀ f : List (String × Json), Json.encodeFieldsWith escapeChar f = encodeFields f
  | [] => rfl
  | (k, v) :: f => congrArg₂ List.cons
      (congrArg (encodeString k ++ ':' :: ·) (encodeWith_escapeChar v))
      (encodeFieldsWith_escapeChar f)

end

/-- **Decoding inverts what Dart writes.** -/
theorem decode_encode {v : Json} (hv : v.Determined) : Json.decode (encode v) = some v := by
  rw [← encodeWith_escapeChar, Json.decode_encodeWith parseString_escapeChar hv]

end DartJson

namespace Json

/-! ### Strings end where they are read to end -/

/-- Two ways to write strings in which the text of one is never the start of another's. -/
def Delimited (quote quote' : String → Text) : Prop :=
  ∀ ⦃s s' : String⦄ ⦃r r' : Text⦄, quote s ++ r = quote' s' ++ r' → s = s' ∧ r = r'

/-- What one parser reads back is delimited. -/
theorem delimited_of_readBack {escape escape' : Char → Text} (h : ReadBack escape)
    (h' : ReadBack escape') : Delimited (fun s => '"' :: ((chars s).flatMap escape ++ ['"']))
      fun s => '"' :: ((chars s).flatMap escape' ++ ['"']) := by
  intro s s' r r' htext
  simp only [List.cons_append, List.append_assoc, List.nil_append, List.cons.injEq,
    true_and] at htext
  have heq := (parseString_flatMap h (chars s) r).symm.trans
    ((congrArg parseString htext).trans (parseString_flatMap h' (chars s') r'))
  obtain ⟨hs, hr⟩ := Prod.mk.inj (Option.some.inj heq)
  exact ⟨by rw [← ofList_chars s, hs, ofList_chars], hr⟩

def stringMembers (quote : String → Text) (f : List (String × String)) : List Text :=
  f.map fun kv => quote kv.1 ++ ':' :: quote kv.2

/-- The first member, and what follows it. -/
theorem commaSep_stringMembers_cons (quote : String → Text) (k v : String)
    (f : List (String × String)) (r : Text) :
    ∃ t, commaSep (stringMembers quote ((k, v) :: f)) ++ '}' :: r
        = quote k ++ ':' :: (quote v ++ t) ∧
      (f = [] ∧ t = '}' :: r ∨
        f ≠ [] ∧ t = ',' :: (commaSep (stringMembers quote f) ++ '}' :: r)) := by
  cases f with
  | nil => exact ⟨'}' :: r, by simp [stringMembers, commaSep], .inl ⟨rfl, rfl⟩⟩
  | cons x f =>
    exact ⟨',' :: (commaSep (stringMembers quote (x :: f)) ++ '}' :: r),
      by simp [stringMembers, commaSep], .inr ⟨List.cons_ne_nil _ _, rfl⟩⟩

/-- **The text of an object with given keys determines its strings.** -/
theorem Delimited.join_inj {quote quote' : String → Text} (hquote : Delimited quote quote')
    {f g : List (String × String)} (hkeys : f.map Prod.fst = g.map Prod.fst) {r r' : Text}
    (h : commaSep (stringMembers quote f) ++ '}' :: r
      = commaSep (stringMembers quote' g) ++ '}' :: r') : f = g := by
  induction f generalizing g with
  | nil =>
    obtain rfl := List.map_eq_nil_iff.1 hkeys.symm
    rfl
  | cons kv f ih =>
    obtain ⟨k, v⟩ := kv
    cases g with
    | nil => cases hkeys
    | cons kv' g =>
      obtain ⟨k', v'⟩ := kv'
      obtain ⟨hk, htail⟩ := List.cons.inj hkeys
      obtain rfl : k = k' := hk
      obtain ⟨t, htext, ht⟩ := commaSep_stringMembers_cons quote k v f r
      obtain ⟨t', htext', ht'⟩ := commaSep_stringMembers_cons quote' k v' g r'
      rw [htext, htext'] at h
      obtain ⟨-, hrest⟩ := hquote h
      obtain ⟨rfl, rfl⟩ := hquote (List.cons.inj hrest).2
      rcases ht with ⟨rfl, -⟩ | ⟨-, rfl⟩
      · rw [List.map_eq_nil_iff.1 htail.symm]
      · rcases ht' with ⟨rfl, -⟩ | ⟨-, heq⟩
        · rw [List.map_eq_nil_iff.1 htail]
        · rw [ih htail (List.cons.inj heq).2]

/-- Members of the same lengths are the same when their texts are. -/
theorem commaSep_inj : ∀ {l l' : List Text}, l.map List.length = l'.map List.length →
    (commaSep l = commaSep l' ↔ l = l')
  | [], [], _ => by simp
  | [x], [y], _ => by simp [commaSep]
  | [_], _ :: _ :: _, h => by simp at h
  | _ :: _ :: _, [_], h => by simp at h
  | x :: y :: l, x' :: y' :: l', h => by
    obtain ⟨hx, htail⟩ := List.cons.inj h
    rw [commaSep, commaSep, List.cons.injEq x, ← commaSep_inj htail]
    constructor
    · intro heq
      obtain ⟨hhead, hrest⟩ := List.append_inj heq hx
      exact ⟨hhead, (List.cons.inj hrest).2⟩
    · rintro ⟨rfl, hrest⟩
      rw [hrest]

end Json

end Ansible
