import Ansible.Lib.DateTime
import Ansible.Lib.JsonParse

/-!
# JSON as Go's standard library writes and reads it

`encoding/json` writes the fields of a structure in their order and escapes what
HTML could mistake; it reads members by a name that is compared without case, the
last one winning, and can refuse members it does not know.  What is not Unicode is
read as U+FFFD.  `time.Time` is text in RFC 3339, of which the reader takes some
more forms.

## Main definitions

* `GoJson.quote`, `GoJson.object` — strings and structures as they are written.
* `GoTime`, `GoJson.marshalTime`, `GoJson.parseTime` — instants with an offset.
* `GoJson.members` — the members of an object at the start of a document, repeated
  ones included.
* `GoJson.setString`, `GoJson.setInt`, … — what a value does to a field.

## Main results

* `GoJson.readBack_escapeChar` — what is escaped is read back.
-/

namespace Ansible

/-- A time: nanoseconds since the zero time, and the offset of its zone in seconds. -/
structure GoTime where
  instant : ℤ
  offset : ℤ := 0
  deriving DecidableEq, Repr

namespace GoJson

/-! ### Writing -/

/-- Four hexadecimal digits after `\u`. -/
def unicodeEscape (n : ℕ) : Text :=
  ['\\', 'u', (n / 4096 % 16).digitChar, (n / 256 % 16).digitChar, (n / 16 % 16).digitChar,
    (n % 16).digitChar]

def escapeChar (c : Char) : Text :=
  if c = '"' ∨ c = '\\' then ['\\', c]
  else if c = '\n' then ['\\', 'n']
  else if c = '\r' then ['\\', 'r']
  else if c = '\t' then ['\\', 't']
  else if c.toNat = 8 then ['\\', 'b']
  else if c.toNat = 12 then ['\\', 'f']
  else if c.toNat < 32 ∨ c = '<' ∨ c = '>' ∨ c = '&' ∨ c.toNat = 0x2028 ∨ c.toNat = 0x2029 then
    unicodeEscape c.toNat
  else [c]

/-- A string between quotes, escaped. -/
def quote (s : String) : Text := '"' :: ((chars s).flatMap escapeChar ++ ['"'])

/-- A field of a structure. -/
def member (name : String) (value : Text) : Text := quote name ++ ':' :: value

/-- A structure, from its fields in order. -/
def object (members : List Text) : Text := '\x7b' :: (Json.commaSep members ++ ['\x7d'])

/-- A number with leading zeros. -/
def padded (width n : ℕ) : Text := (Nat.toDigits 10 n).leftpad width '0'

/-- The digits of a fraction of a second, without the zeros at its end. -/
def nanoText (nanos : ℕ) : Text :=
  if nanos = 0 then []
  else '.' :: ((padded 9 nanos).reverse.dropWhile (· == '0')).reverse

def zoneText (offset : ℤ) : Text :=
  if offset = 0 then ['Z']
  else
    let minutes := offset.natAbs / 60
    (if offset < 0 then '-' else '+') :: (padded 2 (minutes / 60) ++ ':' :: padded 2 (minutes % 60))

/-- The days from the zero time to the start of 1970. -/
def epochDays : ℤ := 719162

/-- A time between quotes, none when its year has not four digits. -/
def marshalTime (t : GoTime) : Option Text :=
  let seconds := t.instant / 1000000000 + t.offset
  let (year, month, day) := DateTime.civilFromDays (seconds / 86400 - epochDays)
  let clock := (seconds % 86400).toNat
  if 0 ≤ year ∧ year ≤ 9999 then
    some ('"' :: (padded 4 year.toNat ++ '-' :: padded 2 month ++ '-' :: padded 2 day ++ 'T' ::
      padded 2 (clock / 3600) ++ ':' :: padded 2 (clock / 60 % 60) ++
        ':' :: padded 2 (clock % 60) ++
      nanoText (t.instant % 1000000000).toNat ++ zoneText t.offset ++ ['"']))
  else none

/-! ### Reading -/

/-- The nanoseconds of a fraction of a second, of which nine digits count. -/
def parseNanos (cs : Text) : Option (ℕ × Text) :=
  match DateTime.sep ['.', ','] cs with
  | some r =>
    let ds := r.takeWhile Char.isDigit
    if ds = [] then none
    else (DateTime.number 9 ((ds ++ List.replicate 9 '0').take 9)).map fun p =>
      (p.1, r.dropWhile Char.isDigit)
  | none => some (0, cs)

/-- An hour of the day, of one digit or two. -/
def parseHour (cs : Text) : Option (ℕ × Text) :=
  (DateTime.number 2 cs).or (DateTime.number 1 cs)

/-- The offset in seconds: `Z`, or a sign, hours and minutes. -/
def parseZone (cs : Text) : Option ℤ :=
  match cs with
  | ['Z'] => some 0
  | c :: r => do
    let sign : ℤ ← if c = '+' then some 1 else if c = '-' then some (-1) else none
    let (hours, r) ← DateTime.number 2 r
    let (minutes, r) ← DateTime.number 2 (← DateTime.sep [':'] r)
    -- some write offsets of 24 hours or of 60 minutes
    if r = [] ∧ hours ≤ 24 ∧ minutes ≤ 60 then some (sign * (hours * 3600 + minutes * 60)) else none
  | [] => none

/-- A time in RFC 3339, whose fraction may stand after a comma. -/
def parseTime (s : String) : Option GoTime := do
  let (year, r) ← DateTime.number 4 (chars s)
  let (month, r) ← DateTime.number 2 (← DateTime.sep ['-'] r)
  let (day, r) ← DateTime.number 2 (← DateTime.sep ['-'] r)
  let (hour, r) ← parseHour (← DateTime.sep ['T'] r)
  let (minute, r) ← DateTime.number 2 (← DateTime.sep [':'] r)
  let (second, r) ← DateTime.number 2 (← DateTime.sep [':'] r)
  let (nanos, r) ← parseNanos r
  let offset ← parseZone r
  if 1 ≤ month ∧ month ≤ 12 ∧ 1 ≤ day ∧ day ≤ DateTime.daysInMonth year month ∧ hour < 24 ∧
      minute < 60 ∧ second < 60 then
    let seconds := (DateTime.daysFromCivil year month day + epochDays) * 86400 +
      (hour * 3600 + minute * 60 + second : ℕ)
    some { instant := (seconds - offset) * 1000000000 + nanos, offset }
  else none

/-- What stands for bytes and escapes that are no character. -/
def replacementChar : Char := Char.ofNat 0xFFFD

/-- The characters of a binary; a byte that starts none is replaced.  `n` is its length. -/
def decodeText : (n : ℕ) → Binary → Text
  | 0, _ => []
  | _, [] => []
  | n + 1, a :: l =>
    let width := if a.toNat < 128 then 1 else if a.toNat < 224 then 2
      else if a.toNat < 240 then 3 else 4
    match decodeUtf8 ((a :: l).take width) with
    | [c] =>
      if String.utf8EncodeChar c = (a :: l).take width then c :: decodeText n ((a :: l).drop width)
      else replacementChar :: decodeText n l
    | _ => replacementChar :: decodeText n l

/-- An escape of the second half of a surrogate pair. -/
def startsLow : Text → Bool
  | '\\' :: 'u' :: a :: b :: c :: d :: _ =>
    (Json.hex4 a b c d).any fun n => 0xDC00 ≤ n && n < 0xE000
  | _ => false

/-- The escapes of surrogates without their other halves are replaced. -/
def pairSurrogates (afterHigh : Bool) : Text → Text
  | '\\' :: 'u' :: a :: b :: c :: d :: r =>
    let n := (Json.hex4 a b c d).getD 0
    let high := 0xD800 ≤ n && n < 0xDC00 && startsLow r
    if n < 0xD800 || 0xE000 ≤ n || high || (afterHigh && 0xDC00 ≤ n) then
      '\\' :: 'u' :: a :: b :: c :: d :: pairSurrogates high r
    else replacementChar :: pairSurrogates false r
  | '\\' :: e :: r => '\\' :: e :: pairSurrogates false r
  | c :: r => c :: pairSurrogates false r
  | [] => []

/-- The members of the object that a document starts with, in order and with repeated keys, and
what follows it; null has none. -/
def members (document : Binary) : Option (List (String × Json) × Text) :=
  let text := pairSurrogates false (decodeText document.length document)
  match Json.skipWs text with
  | 'n' :: 'u' :: 'l' :: 'l' :: r => some ([], r)
  | '\x7b' :: r =>
    match Json.skipWs r with
    | '\x7d' :: r => some ([], r)
    | r => Json.parseFields (text.length + 1) r
  | _ => none

/-- Characters that are one when case is ignored: the long s and the Kelvin sign are letters. -/
def foldChar (c : Char) : Char :=
  if c.toNat = 0x17f then 's' else if c.toNat = 0x212a then 'k' else c.toLower

/-- The field of the structure that a member is for. -/
def isField (name key : String) : Bool := (chars key).map foldChar == chars name

def setString (old : String) : Json → Option String
  | .str s => some s
  | .null => some old
  | _ => none

/-- The integers of a machine word. -/
def setInt (old : ℤ) : Json → Option ℤ
  | .int i => if -9223372036854775808 ≤ i ∧ i ≤ 9223372036854775807 then some i else none
  | .null => some old
  | _ => none

def setTime (old : GoTime) : Json → Option GoTime
  | .str s => parseTime s
  | .null => some old
  | _ => none

/-- A slice of strings: null leaves none, and an element that is null the one in its place. -/
def setStrings (old : List String) : Json → Option (List String)
  | .arr l => l.zipIdx.mapM fun p => setString (old.getD p.2 "") p.1
  | .null => some []
  | _ => none

/-- The structure that the members leave, `set` putting each into its field. -/
def fill {α : Type} (set : α → String → Json → Option α) (init : α)
    (fields : List (String × Json)) :
    Option α :=
  fields.foldlM (fun a kv => set a kv.1 kv.2) init


example : (parseTime "2026-07-22T01:30:00.120+08:00").bind marshalTime =
    some "\"2026-07-22T01:30:00.12+08:00\"".toList := by decide +kernel

/-! ### Strings are read back -/

theorem hexVal_digitChar {n : ℕ} (hn : n < 16) : Json.hexVal n.digitChar = some n := by
  revert n
  decide

theorem hex4_unicodeEscape {n : ℕ} (hn : n < 65536) :
    Json.hex4 (n / 4096 % 16).digitChar (n / 256 % 16).digitChar (n / 16 % 16).digitChar
      (n % 16).digitChar = some n := by
  simp only [Json.hex4, hexVal_digitChar (Nat.mod_lt _ (by decide : 16 > 0)),
    Option.bind_eq_bind, Option.bind_some, Option.pure_def, Option.some.injEq]
  omega

/-- An escape of four hexadecimal digits stands for its character. -/
theorem parseString_unicodeEscape {c : Char} (hc : c.toNat < 0xD800 ∨ c.toNat = 0x2028 ∨
    c.toNat = 0x2029) (r : List Char) :
    Json.parseString (unicodeEscape c.toNat ++ r) =
      (Json.parseString r).map fun p => (c :: p.1, p.2) := by
  have hlt : c.toNat < 0xD800 := by omega
  have hhex := hex4_unicodeEscape (n := c.toNat) (by omega)
  simp only [unicodeEscape, List.cons_append, List.nil_append, Json.parseString, hhex]
  rw [if_neg (by omega), if_neg (by omega), Char.ofNat_toNat]

/-- **What Go escapes is read back.** -/
theorem readBack_escapeChar : Json.ReadBack escapeChar := by
  intro c r
  unfold escapeChar
  by_cases h1 : c = '"' ∨ c = '\\'
  · rw [if_pos h1]
    rcases h1 with rfl | rfl <;> rfl
  rw [if_neg h1]
  by_cases h2 : c = '\n'
  · rw [if_pos h2, h2]
    rfl
  rw [if_neg h2]
  by_cases h3 : c = '\r'
  · rw [if_pos h3, h3]
    rfl
  rw [if_neg h3]
  by_cases h4 : c = '\t'
  · rw [if_pos h4, h4]
    rfl
  rw [if_neg h4]
  by_cases h5 : c.toNat = 8
  · have hc : c = Char.ofNat 8 := by rw [← h5, Char.ofNat_toNat]
    rw [if_pos h5, hc]
    rfl
  rw [if_neg h5]
  by_cases h6 : c.toNat = 12
  · have hc : c = Char.ofNat 12 := by rw [← h6, Char.ofNat_toNat]
    rw [if_pos h6, hc]
    rfl
  rw [if_neg h6]
  by_cases h7 : c.toNat < 32 ∨ c = '<' ∨ c = '>' ∨ c = '&' ∨ c.toNat = 0x2028 ∨ c.toNat = 0x2029
  · rw [if_pos h7]
    refine parseString_unicodeEscape ?_ r
    rcases h7 with h | rfl | rfl | rfl | h | h
    · exact .inl (by omega)
    · exact .inl (by decide)
    · exact .inl (by decide)
    · exact .inl (by decide)
    · exact .inr (.inl h)
    · exact .inr (.inr h)
  · -- a character that stands for itself
    rw [if_neg h7, List.cons_append, List.nil_append, Json.parseString.eq_def]
    rw [not_or] at h1 h7
    split <;> simp_all

end GoJson

end Ansible
