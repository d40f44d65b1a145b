import Ansible.Lib.Base
import Mathlib.Data.Rat.Defs

/-!
# JSON values and their compact text

A JSON document as a program holds it after decoding: an object is the list of
its members, a number is an integer or a decimal fraction.  `encode` is the text
without insignificant white space, members in the order of the list, which is
what an encoder writes for a map whose iteration order is that list.

## Main definitions

* `Json` — the values.
* `Json.Determined` — decimal fractions, and no object repeats a key: the values that `encode`
  determines.
-/

namespace Ansible

/-- A JSON value.  `float` stands for a number written with a fraction or an
exponent, by its exact decimal value. -/
inductive Json
  | null
  | bool (b : Bool)
  | int (i : ℤ)
  | float (q : ℚ)
  | str (s : String)
  | arr (l : List Json)
  | obj (fields : List (String × Json))
  deriving Inhabited

namespace Json

/-! ### Members -/

/-- The value of a member, `none` when `j` is no object or has no such member. -/
def get? (key : String) : Json → Option Json
  | .obj fields => fields.lookup key
  | _ => none

/-- The value of a member, an absent one reading as `null`. -/
def fetch (j : Json) (key : String) : Json := (j.get? key).getD .null

/-- The keys of an object, in order. -/
def keys : Json → List String
  | .obj fields => fields.map Prod.fst
  | _ => []

/-- The members of `new` over those of `j`: keys of `new` replace the old ones. -/
def merge (j : Json) (new : List (String × Json)) : Json :=
  match j with
  | .obj fields => .obj (fields.filter (fun kv => !(new.map Prod.fst).contains kv.1) ++ new)
  | _ => .obj new

/-- An object without one of its members. -/
def erase (key : String) : Json → Json
  | .obj fields => .obj (fields.filter fun kv => kv.1 != key)
  | j => j

def isNull : Json → Bool
  | .null => true
  | _ => false

def isObj : Json → Bool
  | .obj _ => true
  | _ => false

def str? : Json → Option String
  | .str s => some s
  | _ => none

/-- `j || d`: the default stands in for `null` and `false`. -/
def orElse (j d : Json) : Json :=
  match j with
  | .null | .bool false => d
  | j => j

@[simp] theorem orElse_str (s : String) (d : Json) : (Json.str s).orElse d = .str s := rfl

@[simp] theorem orElse_null (d : Json) : Json.null.orElse d = d := rfl

@[simp] theorem get?_obj (key : String) (fields : List (String × Json)) :
    (Json.obj fields).get? key = fields.lookup key := rfl

@[simp] theorem isNull_null : isNull .null = true := rfl

@[simp] theorem isNull_str (s : String) : isNull (.str s) = false := rfl

@[simp] theorem str?_str (s : String) : str? (.str s) = some s := rfl

variable {j : Json} {s k : String} {f : List (String × Json)}

@[simp] theorem str?_eq_some : j.str? = some s ↔ j = .str s := by
  cases j <;> simp [str?]

@[simp] theorem isNull_eq_true : j.isNull = true ↔ j = .null := by
  cases j <;> simp [isNull]

/-! ### Merging -/

theorem lookup_append_of_not_mem {α : Type} {f g : List (String × α)} (h : k ∉ g.map Prod.fst) :
    (f ++ g).lookup k = f.lookup k := by
  induction f with
  | nil =>
    rw [List.nil_append, List.lookup_nil, List.lookup_eq_none_iff]
    intro p hp
    have : p.1 ≠ k := fun he => h (he ▸ List.mem_map_of_mem hp)
    simpa using this.symm
  | cons kv f ih => rw [List.cons_append, List.lookup_cons, List.lookup_cons, ih]

theorem lookup_filter_of_pos {α : Type} {p : String → Bool} {f : List (String × α)}
    (h : p k = true) : (f.filter fun kv => p kv.1).lookup k = f.lookup k := by
  induction f with
  | nil => rfl
  | cons kv f ih =>
    obtain ⟨k', v⟩ := kv
    rw [List.filter_cons]
    split
    · rw [List.lookup_cons, List.lookup_cons, ih]
    · next hp =>
      have hne : (k == k') = false := by
        rw [beq_eq_false_iff_ne]
        rintro rfl
        exact hp h
      rw [List.lookup_cons, hne, ih]

theorem fetch_merge {new : List (String × Json)} (h : k ∉ new.map Prod.fst) :
    ((Json.obj f).merge new).fetch k = (Json.obj f).fetch k := by
  rw [fetch, fetch, merge, get?_obj, get?_obj, lookup_append_of_not_mem h,
    lookup_filter_of_pos (p := fun k => !(new.map Prod.fst).contains k) (by simpa using h)]

theorem fetch_merge_new {new : List (String × Json)} (h : k ∈ new.map Prod.fst) :
    ((Json.obj f).merge new).fetch k = (new.lookup k).getD .null := by
  have hold : (f.filter fun kv => !(new.map Prod.fst).contains kv.1).lookup k = none := by
    rw [List.lookup_eq_none_iff]
    intro kv hkv
    have hne : kv.1 ∉ new.map Prod.fst := by simpa using (List.mem_filter.1 hkv).2
    rw [bne_iff_ne]
    rintro rfl
    exact hne h
  rw [fetch, merge, get?_obj, List.lookup_append, hold, Option.none_or]

/-! ### Equality of decoded documents -/

mutual

/-- Equality of decoded documents: numbers by value, objects as finite maps. -/
def eqv : Json → Json → Bool
  | .null, .null => true
  | .bool a, .bool b => a == b
  | .int a, .int b => a == b
  | .int a, .float b => (a : ℚ) == b
  | .float a, .int b => a == (b : ℚ)
  | .float a, .float b => a == b
  | .str a, .str b => a == b
  | .arr a, .arr b => eqvElems a b
  | .obj a, .obj b => a.length == b.length && eqvFields a b
  | _, _ => false

def eqvElems : List Json → List Json → Bool
  | [], [] => true
  | a :: l, b :: m => eqv a b && eqvElems l m
  | _, _ => false

/-- Every member of the first list is one of the second, up to `eqv`. -/
def eqvFields : List (String × Json) → List (String × Json) → Bool
  | [], _ => true
  | (k, v) :: l, m => (m.lookup k).any (eqv v) && eqvFields l m

end

/-- A string equals only itself. -/
theorem eqv_str_right : eqv j (.str s) = true ↔ j = .str s := by
  cases j <;> simp [eqv]

theorem eqv_str_left : eqv (.str s) j = true ↔ j = .str s := by
  cases j with
  | str t => rw [eqv, beq_iff_eq, str.injEq, eq_comm]
  | _ => simp [eqv]

theorem eqvFields_lookup {a b : List (String × Json)} (h : eqvFields a b = true) {v : Json}
    (hk : a.lookup k = some v) : ∃ w, b.lookup k = some w ∧ eqv v w = true := by
  induction a with
  | nil => simp at hk
  | cons kv l ih =>
    obtain ⟨k', v'⟩ := kv
    rw [eqvFields, Bool.and_eq_true] at h
    rw [List.lookup_cons] at hk
    split at hk
    · next heq =>
      obtain rfl : k = k' := by simpa using heq
      cases hk
      cases hb : b.lookup k with
      | none => simp [hb] at h
      | some w => exact ⟨w, rfl, by simpa [hb] using h.1⟩
    · exact ih h.2 hk

/-! ### Text -/

/-- The two-character escapes, and `\u00XX` for the other control characters. -/
def escapeChar (c : Char) : Text :=
  if c = '"' then ['\\', '"']
  else if c = '\\' then ['\\', '\\']
  else if c = '\n' then ['\\', 'n']
  else if c = '\r' then ['\\', 'r']
  else if c = '\t' then ['\\', 't']
  else if c.toNat = 8 then ['\\', 'b']
  else if c.toNat = 12 then ['\\', 'f']
  else if c.toNat < 32 then
    ['\\', 'u', '0', '0', (c.toNat / 16).digitChar.toUpper, (c.toNat % 16).digitChar.toUpper]
  else [c]

/-- A string between quotes, escaped. -/
def encodeString (s : String) : Text := '"' :: ((chars s).flatMap escapeChar ++ ['"'])

/-- The decimal digits of an integer, after its sign. -/
def encodeInt : ℤ → Text
  | .ofNat n => Nat.toDigits 10 n
  | .negSucc n => '-' :: Nat.toDigits 10 (n + 1)

/-- The decimal digits of the fractional part `n / d`, at most `fuel` of them. -/
def fractionDigits : ℕ → ℕ → ℕ → Text
  | 0, _, _ => []
  | fuel + 1, n, d =>
    if n = 0 then [] else (10 * n / d).digitChar :: fractionDigits fuel (10 * n % d) d

/-- A fraction in positional notation, with at least one digit after the point. -/
def encodeFloat (q : ℚ) : Text :=
  let n := q.num.natAbs
  let ds := fractionDigits (q.den + 1) (n % q.den) q.den
  (if q < 0 then ['-'] else []) ++ Nat.toDigits 10 (n / q.den) ++
    '.' :: (if ds = [] then ['0'] else ds)

/-- Items with a comma between each two. -/
def commaSep : List Text → Text
  | [] => []
  | [x] => x
  | x :: y :: l => x ++ ',' :: commaSep (y :: l)

mutual

/-- The compact text of a value. -/
def encode : Json → Text
  | .null => ['n', 'u', 'l', 'l']
  | .bool true => ['t', 'r', 'u', 'e']
  | .bool false => ['f', 'a', 'l', 's', 'e']
  | .int i => encodeInt i
  | .float q => encodeFloat q
  | .str s => encodeString s
  | .arr l => '[' :: (commaSep (encodeElems l) ++ [']'])
  | .obj f => '{' :: (commaSep (encodeFields f) ++ ['}'])

def encodeElems : List Json → List Text
  | [] => []
  | v :: l => encode v :: encodeElems l

def encodeFields : List (String × Json) → List Text
  | [] => []
  | (k, v) :: l => (encodeString k ++ ':' :: encode v) :: encodeFields l

end

theorem encodeFields_eq_map (l : List (String × Json)) :
    encodeFields l = l.map fun kv => encodeString kv.1 ++ ':' :: encode kv.2 := by
  induction l with
  | nil => rfl
  | cons kv l ih =>
    obtain ⟨k, v⟩ := kv
    rw [encodeFields, ih, List.map_cons]

/-! ### The values a text determines -/

mutual

/-- No fraction occurs in the value and no object repeats a key. -/
def WellFormed : Json → Prop
  | .float _ => False
  | .arr l => WellFormedElems l
  | .obj f => (f.map Prod.fst).Nodup ∧ WellFormedFields f
  | _ => True

def WellFormedElems : List Json → Prop
  | [] => True
  | v :: l => WellFormed v ∧ WellFormedElems l

def WellFormedFields : List (String × Json) → Prop
  | [] => True
  | (_, v) :: l => WellFormed v ∧ WellFormedFields l

end

/-- The number has finitely many decimals. -/
def IsDecimal (q : ℚ) : Prop := ∃ k, q.den ∣ 10 ^ k

mutual

/-- What a text can say: numbers have finitely many decimals, and no object repeats a key. -/
def Determined : Json → Prop
  | .float q => IsDecimal q
  | .arr l => DeterminedElems l
  | .obj f => (f.map Prod.fst).Nodup ∧ DeterminedFields f
  | _ => True

def DeterminedElems : List Json → Prop
  | [] => True
  | v :: l => Determined v ∧ DeterminedElems l

def DeterminedFields : List (String × Json) → Prop
  | [] => True
  | (_, v) :: l => Determined v ∧ DeterminedFields l

end

mutual

theorem WellFormed.determined : ∀ {v : Json}, v.WellFormed → v.Determined
  | .null, _ | .bool _, _ | .int _, _ | .str _, _ => trivial
  | .float _, h => h.elim
  | .arr _, h => determinedElems h
  | .obj _, h => ⟨h.1, determinedFields h.2⟩

theorem determinedElems : ∀ {l : List Json}, WellFormedElems l → DeterminedElems l
  | [], _ => trivial
  | _ :: _, h => ⟨h.1.determined, determinedElems h.2⟩

theorem determinedFields : ∀ {f : List (String × Json)}, WellFormedFields f → DeterminedFields f
  | [], _ => trivial
  | _ :: _, h => ⟨h.1.determined, determinedFields h.2⟩

end

theorem determinedElems_iff {l : List Json} : DeterminedElems l ↔ ∀ v ∈ l, v.Determined := by
  induction l with
  | nil => simp [DeterminedElems]
  | cons v l ih => simp [DeterminedElems, ih]

theorem determinedFields_iff : DeterminedFields f ↔ ∀ kv ∈ f, kv.2.Determined := by
  induction f with
  | nil => simp [DeterminedFields]
  | cons kv f ih =>
    obtain ⟨k, v⟩ := kv
    simp [DeterminedFields, ih]

end Json

/-! ### Columns -/

mutual

/-- A document that a `jsonb` column can hold. -/
def fitsJsonb : Json → Bool
  | .str s => fitsText s
  | .arr l => fitsElems l
  | .obj f => fitsMembers f
  | _ => true

def fitsElems : List Json → Bool
  | [] => true
  | v :: l => fitsJsonb v && fitsElems l

def fitsMembers : List (String × Json) → Bool
  | [] => true
  | (k, v) :: l => fitsText k && fitsJsonb v && fitsMembers l

end

end Ansible
