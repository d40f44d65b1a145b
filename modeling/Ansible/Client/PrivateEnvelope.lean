import Ansible.Client.IssuerAttestation
import Ansible.Client.RemoteActivity
import Ansible.Lib.KeyOrder
import Ansible.Relay.PrivateContent

/-!
# Envelopes of private boards

The app encrypts the content of a private board under the key of an epoch.  What describes the
record is bound to the ciphertext as associated data: a canonical text of the description, in which
the creation time is written to the second, or with six digits when it has microseconds.  The
description travels in the envelope, is checked by the relay and read again by the receiver, who
writes the associated data anew.

AES-GCM is a parameter.  It opens what it sealed, and a sealed box opens under no other associated
data.

## Main definitions

* `AssociatedData`, `PrivateBoardContentEnvelope` — the description of a record, and the envelope.
* `PrivateBoardContentEnvelope.toJson`, `PrivateBoardContentEnvelope.fromJson` — its two directions.
* `AesGcm` — the cipher; `AesGcm.Lawful`, `AesGcm.Binds` — what is relied on.
* `encryptContent`, `decryptContent` — the service.

## Main results

* `private_content` — **the envelope of a record binds its description**, and is read back.
-/

namespace Ansible

namespace Client

open DartDateTime

/-! ### Creation times -/

/-- A `DateTime`. -/
abbrev Instant := {t : ℤ // |t| ≤ DartDateTime.limit}

/-- `replaceFirst(RegExp(r'\.\d{3}Z$'), 'Z')` -/
def dropMilliseconds (text : Text) : Text :=
  match text.reverse with
  | 'Z' :: c :: b :: a :: '.' :: r =>
    if a.isDigit && b.isDigit && c.isDigit then r.reverse ++ ['Z'] else text
  | _ => text

/-- `_rfc3339Seconds` -/
def rfc3339Seconds (t : ℤ) : Text := dropMilliseconds (chars (toIso8601String t))

/-- What the text of a creation time keeps of it: the second, or all when there are
microseconds. -/
def boundTime (t : ℤ) : ℤ := if t % 1000 = 0 then t / 1000000 * 1000000 else t

def yearOf (t : ℤ) : ℤ := (DateTime.civilFromDays (t / 86400000000)).1

example : rfc3339Seconds 1500000 = chars "1970-01-01T00:00:01Z" := by decide

example : rfc3339Seconds 1500001 = chars "1970-01-01T00:00:01.500001Z" := by decide

theorem textOf_congr {t t' : ℤ} (h : t / 1000000 = t' / 1000000) (frac : Text) :
    textOf t frac = textOf t' frac := by
  have hday : t / 86400000000 = t' / 86400000000 := by omega
  have hsecond : (t % 86400000000).toNat / 1000000 = (t' % 86400000000).toNat / 1000000 := by omega
  rw [textOf, textOf, hday, hsecond]

variable (t : ℤ) (d : AssociatedData)

theorem exists_textOf : ∃ pre : Text, ∀ frac, textOf t frac = pre ++ (frac ++ ['Z']) := by
  obtain ⟨y, month, day, hour, minute, second, h⟩ := exists_fields t
  refine ⟨yearText y ++ '-' :: (pad 2 month ++ '-' :: (pad 2 day ++ 'T' :: (pad 2 hour ++ ':' ::
    (pad 2 minute ++ ':' :: pad 2 second)))), fun frac => ?_⟩
  rw [h.text frac]
  simp

theorem exists_three {l : Text} (h : l.length = 3) : ∃ a b c, l = [a, b, c] := by
  match l, h with
  | [a, b, c], _ => exact ⟨a, b, c, rfl⟩

theorem dropMilliseconds_three (pre : Text) {n : ℕ} (hn : n < 1000) :
    dropMilliseconds (pre ++ ('.' :: pad 3 n ++ ['Z'])) = pre ++ ['Z'] := by
  have hdigit : ∀ c ∈ pad 3 n, c.isDigit = true := fun c hc => isDigit_of_mem_pad (n := 3) hn hc
  obtain ⟨a, b, c, hl⟩ := exists_three (length_pad 3 n)
  rw [hl] at hdigit ⊢
  simp only [List.mem_cons, List.not_mem_nil, or_false, forall_eq_or_imp, forall_eq] at hdigit
  simp [dropMilliseconds, hdigit]

theorem dropMilliseconds_six (pre : Text) {n m : ℕ} (hn : n < 1000) :
    dropMilliseconds (pre ++ ('.' :: (pad 3 n ++ pad 3 m) ++ ['Z']))
      = pre ++ ('.' :: (pad 3 n ++ pad 3 m) ++ ['Z']) := by
  have hdigit : ∀ c ∈ pad 3 n, c.isDigit = true := fun c hc => isDigit_of_mem_pad (n := 3) hn hc
  obtain ⟨a, b, c, hl⟩ := exists_three (length_pad 3 n)
  obtain ⟨a', b', c', hl'⟩ := exists_three (length_pad 3 m)
  rw [hl, hl']
  rw [hl] at hdigit
  have hc : c ≠ '.' := by
    rintro rfl
    have := hdigit '.' (by simp)
    revert this
    decide
  simp [dropMilliseconds, hc]

/-- The fraction of a second in the text of an instant. -/
def boundFraction (t : ℤ) : Text :=
  if t % 1000 = 0 then [] else '.' :: pad 6 (t % 1000000).toNat

theorem rfc3339Seconds_eq : rfc3339Seconds t = textOf t (boundFraction t) := by
  obtain ⟨pre, hpre⟩ := exists_textOf t
  have hmicro : (t % 86400000000).toNat % 1000000 = (t % 1000000).toNat := by omega
  rw [rfc3339Seconds, toIso8601String_eq_textOf, chars_ofList, hpre, hpre, hmicro, fractionText,
    boundFraction]
  by_cases h : t % 1000 = 0
  · rw [if_pos (by omega), if_pos h, List.append_nil, dropMilliseconds_three _ (by omega)]
    rfl
  · rw [if_neg (by omega), if_neg h, dropMilliseconds_six _ (by omega)]
    have hsplit := pad_add (n := 3) (k := 3) (v := (t % 1000000).toNat) (by omega)
    rw [hsplit]
    rfl

theorem fraction_boundFraction :
    ∃ micro : ℕ, DateTime.fraction (boundFraction t ++ ['Z']) = some (micro, ['Z']) ∧
      t / 1000000 * 1000000 + micro = boundTime t := by
  unfold boundFraction boundTime
  split
  · exact ⟨0, rfl, by omega⟩
  · have hlt : (t % 1000000).toNat < 10 ^ 6 := by omega
    refine ⟨(t % 1000000).toNat, ?_, by omega⟩
    have hsix := number_pad hlt []
    rw [List.append_nil] at hsix
    refine fraction_digits (fun c hc => isDigit_of_mem_pad hlt hc) ?_ ?_ []
    · intro h
      have := length_pad 6 (t % 1000000).toNat
      rw [h] at this
      cases this
    · rw [List.take_append, length_pad, List.take_of_length_le (by rw [length_pad]), Nat.sub_self,
        List.take_zero, List.append_nil, hsix]

theorem abs_boundTime {t : ℤ} (h : |t| ≤ limit) : |boundTime t| ≤ limit := by
  unfold boundTime
  rw [abs_le, limit] at h ⊢
  split <;> omega

/-- **How a creation time is written and read**: Dart reads what is bound of it, and the relay
reads the same where the year has four digits. -/
theorem boundTime_spec {t : ℤ} (h : |t| ≤ limit) :
    (∀ toUtc, parseUtc toUtc (String.ofList (rfc3339Seconds t)) = some (boundTime t)) ∧
    DateTime.fromIso8601 (String.ofList (rfc3339Seconds t))
      = (if (yearOf t).natAbs < 10000 then some (boundTime t, 0) else none) := by
  obtain ⟨y, month, day, hour, minute, second, hf⟩ := exists_fields t
  obtain ⟨micro, hfraction, hbound⟩ := fraction_boundFraction t
  have hlimit : |t / 1000000 * 1000000 + micro| ≤ limit := by
    rw [hbound]
    exact abs_boundTime h
  rw [rfc3339Seconds_eq, ← hbound, yearOf, hf.year]
  exact ⟨fun toUtc => hf.parseUtc_textOf toUtc h hlimit hfraction,
    hf.fromIso8601_textOf h hfraction⟩

theorem rfc3339Seconds_eq_iff (t t' : Instant) :
    rfc3339Seconds t = rfc3339Seconds t' ↔ boundTime t = boundTime t' := by
  constructor
  · intro h
    have h1 := (boundTime_spec t.2).1 id
    rw [h, (boundTime_spec t'.2).1 id] at h1
    exact (Option.some.inj h1).symm
  · intro h
    have hsecond : (t : ℤ) / 1000000 = t' / 1000000 := by
      unfold boundTime at h
      split_ifs at h <;> omega
    have hfraction : boundFraction t = boundFraction t' := by
      unfold boundTime at h
      unfold boundFraction
      split_ifs at h ⊢
      · rfl
      · omega
      · omega
      · rw [h]
    rw [rfc3339Seconds_eq, rfc3339Seconds_eq, hfraction, textOf_congr hsecond]

theorem boundTime_boundTime : boundTime (boundTime t) = boundTime t := by
  unfold boundTime
  split_ifs <;> omega

/-! ### The canonical text -/

mutual

theorem reordered_canonicalValue : ∀ v : Json, v.Reordered (canonicalValue v)
  | .null | .bool _ | .int _ | .float _ | .str _ => .refl _
  | .arr l => .elems (reordered_canonicalElems l)
  | .obj f => (Json.Reordered.members (reordered_canonicalFields f)).trans
      (.perm (List.perm_insertionSort _ _).symm)

theorem reordered_canonicalElems : ∀ l : List Json,
    List.Forall₂ Json.Reordered l (canonicalElems l)
  | [] => .nil
  | v :: l => .cons (reordered_canonicalValue v) (reordered_canonicalElems l)

theorem reordered_canonicalFields : ∀ f : List (String × Json),
    List.Forall₂ (fun a b => a.1 = b.1 ∧ a.2.Reordered b.2) f (canonicalFields f)
  | [] => .nil
  | (_, v) :: f => .cons ⟨rfl, reordered_canonicalValue v⟩ (reordered_canonicalFields f)

end

/-- `canonicalJson` -/
def canonicalJson (value : Json) : Text := DartJson.encode (canonicalValue value)

theorem decode_canonicalJson {v : Json} (hv : v.Determined) :
    Json.decode (canonicalJson v) = some (canonicalValue v) :=
  DartJson.decode_encode ((reordered_canonicalValue v).determined_iff.1 hv)

theorem canonicalJson_inj {v w : Json} (hv : v.Determined) (hw : w.Determined)
    (h : canonicalJson v = canonicalJson w) : v.Reordered w := by
  have hread := decode_canonicalJson hv
  rw [h, decode_canonicalJson hw, Option.some.injEq] at hread
  exact (hread ▸ reordered_canonicalValue v).trans (reordered_canonicalValue w).symm

theorem exists_canonicalJson_obj (f : List (String × Json)) :
    ∃ r, canonicalJson (.obj f) = '\x7b' :: r := by
  exact ⟨_, rfl⟩

/-! ### Envelopes -/

/-- The members of an envelope that are bound to its ciphertext. -/
structure AssociatedData where
  boardId : String
  epoch : ℤ
  policyVersion : ℤ
  recordId : String
  recordType : String
  authorPairwiseId : String
  createdAt : Instant

structure PrivateBoardContentEnvelope extends AssociatedData where
  nonce : String
  ciphertext : String
  mac : String

inductive PrivateBoardCryptoException
  | epochKeyUnavailable
  | authenticationFailed
  | invalidPlaintext
  | unsupportedContentEnvelope
  | invalidContentEnvelope
  | invalidEnvelope
  /-- The `FormatException` of a decoder. -/
  | formatException
  deriving DecidableEq, Repr

def AssociatedData.members (d : AssociatedData) : List (String × Json) :=
  [("version", .int 1), ("board_id", .str d.boardId), ("epoch", .int d.epoch),
    ("record_id", .str d.recordId), ("record_type", .str d.recordType),
    ("author_pairwise_id", .str d.authorPairwiseId),
    ("created_at", .str (String.ofList (rfc3339Seconds d.createdAt))),
    ("policy_version", .int d.policyVersion)]

def AssociatedData.aad (d : AssociatedData) : Json := .obj d.members

def PrivateBoardContentEnvelope.toJson (e : PrivateBoardContentEnvelope) : Json :=
  .obj (e.members ++ [("algorithm", .str "A256GCM"), ("nonce", .str e.nonce),
    ("ciphertext", .str e.ciphertext), ("mac", .str e.mac)])

/-- `_requiredString` -/
def requiredString (json : Json) (key : String) : Except PrivateBoardCryptoException String :=
  match json.fetch key with
  | .str s => if s = "" then .error .invalidEnvelope else .ok s
  | _ => .error .invalidEnvelope

/-- `_requiredPositiveInt` -/
def requiredPositiveInt (json : Json) (key : String) : Except PrivateBoardCryptoException ℤ :=
  match json.fetch key with
  | .int n => if 0 < n then .ok n else .error .invalidEnvelope
  | _ => .error .invalidEnvelope

/-- `DateTime.tryParse(value?.toString() ?? '')?.toUtc()`: the text of a number may be a date, that
of another value is none. -/
def tryParse (toUtc : ℤ → ℤ) (value : Json) : Option Instant :=
  let text : Option String := match value with
    | .str s => some s
    | .int n => some (String.ofList (Json.encodeInt n))
    | _ => none
  (text.bind (parseUtc toUtc)).bind fun t => if h : |t| ≤ limit then some ⟨t, h⟩ else none

def PrivateBoardContentEnvelope.fromJson (toUtc : ℤ → ℤ) (json : Json) :
    Except PrivateBoardCryptoException PrivateBoardContentEnvelope := do
  if !(json.fetch "version").eqv (.int 1) || !(json.fetch "algorithm").eqv (.str "A256GCM") then
    throw .unsupportedContentEnvelope
  match tryParse toUtc (json.fetch "created_at") with
  | none => throw .invalidContentEnvelope
  | some createdAt =>
    let boardId ← requiredString json "board_id"
    let epoch ← requiredPositiveInt json "epoch"
    let policyVersion ← requiredPositiveInt json "policy_version"
    let recordId ← requiredString json "record_id"
    let recordType ← requiredString json "record_type"
    let authorPairwiseId ← requiredString json "author_pairwise_id"
    let nonce ← requiredString json "nonce"
    let ciphertext ← requiredString json "ciphertext"
    let mac ← requiredString json "mac"
    return { boardId, epoch, policyVersion, recordId, recordType, authorPairwiseId, createdAt,
             nonce, ciphertext, mac }

/-! ### The service -/

/-- AES-GCM with keys of 256 bits; `decrypt` is `none` where authentication fails. -/
structure AesGcm where
  encrypt : (clear secretKey nonce aad : Binary) → Binary × Binary
  decrypt : (cipherText mac secretKey nonce aad : Binary) → Option Binary

/-- What is relied on: a box opens as it was sealed, its ciphertext is as long as the clear text
and its tag has 16 bytes. -/
structure AesGcm.Lawful (A : AesGcm) : Prop where
  decrypt_encrypt : ∀ clear key nonce aad, key.length = 32 → nonce.length = 12 →
    A.decrypt (A.encrypt clear key nonce aad).1 (A.encrypt clear key nonce aad).2 key nonce aad
      = some clear
  length_cipherText : ∀ clear key nonce aad,
    (A.encrypt clear key nonce aad).1.length = clear.length
  length_mac : ∀ clear key nonce aad, (A.encrypt clear key nonce aad).2.length = 16

/-- The box of a message opens under no other associated data, whichever the key. -/
def AesGcm.Binds (A : AesGcm) (clear key nonce aad : Binary) : Prop :=
  ∀ key' aad', A.decrypt (A.encrypt clear key nonce aad).1 (A.encrypt clear key nonce aad).2
    key' nonce aad' ≠ none → aad' = aad

/-- `BoardEpochKeyStore`: keys of 32 bytes of the epochs from 1 on. -/
structure BoardEpochKeyStore where
  get : String → ℤ → Option {key : Binary // key.length = 32}
  epoch_pos : ∀ boardId epoch key, get boardId epoch = some key → 0 < epoch

/-- `_b64` -/
def b64 (b : Binary) : String := String.ofList (encodeUrl64 b)

/-- `_unb64` -/
def unb64 (value : String) : Option Binary := decodeNormalized64 (bytes value)

/-- What is drawn for an envelope. -/
abbrev Nonce := {nonce : Binary // nonce.length = 12}

def encryptContent (A : AesGcm) (store : BoardEpochKeyStore) (nonce : Nonce) (d : AssociatedData)
    (plaintext : List (String × Json)) :
    Except PrivateBoardCryptoException PrivateBoardContentEnvelope :=
  match store.get d.boardId d.epoch with
  | none => .error .epochKeyUnavailable
  | some key =>
    let box := A.encrypt (canonicalJson (.obj plaintext)).utf8 key nonce (canonicalJson d.aad).utf8
    .ok { d with nonce := b64 nonce, ciphertext := b64 box.1, mac := b64 box.2 }

def decryptContent (A : AesGcm) (store : BoardEpochKeyStore) (e : PrivateBoardContentEnvelope) :
    Except PrivateBoardCryptoException (List (String × Json)) :=
  match store.get e.boardId e.epoch with
  | none => .error .epochKeyUnavailable
  | some key =>
    match unb64 e.ciphertext, unb64 e.nonce, unb64 e.mac with
    | some ciphertext, some nonce, some mac =>
      match A.decrypt ciphertext mac key nonce (canonicalJson e.aad).utf8 with
      | none => .error .authenticationFailed
      | some clear =>
        match (utf8Decode clear).bind Json.decode with
        | none => .error .formatException
        | some (.obj f) => .ok f
        | some _ => .error .invalidPlaintext
    | _, _, _ => .error .formatException

/-! ### What is bound -/

/-- Two descriptions of one record, which may differ in the part of the creation time that is not
bound. -/
structure SameRecord (d d' : AssociatedData) : Prop where
  boardId : d'.boardId = d.boardId
  epoch : d'.epoch = d.epoch
  policyVersion : d'.policyVersion = d.policyVersion
  recordId : d'.recordId = d.recordId
  recordType : d'.recordType = d.recordType
  authorPairwiseId : d'.authorPairwiseId = d.authorPairwiseId
  createdAt : boundTime d'.createdAt = boundTime d.createdAt

theorem determined_aad : d.aad.Determined := by
  refine ⟨show List.Nodup ["version", "board_id", "epoch", "record_id", "record_type",
    "author_pairwise_id", "created_at", "policy_version"] by decide, ?_⟩
  simp [AssociatedData.members, Json.DeterminedFields, Json.Determined]

/-- The description as it is once its creation time was written and read. -/
def AssociatedData.settled (d : AssociatedData) : AssociatedData :=
  { d with createdAt := ⟨boundTime d.createdAt, abs_boundTime d.createdAt.2⟩ }

theorem SameRecord.aad_eq {d d' : AssociatedData} (h : SameRecord d d') : d'.aad = d.aad := by
  obtain ⟨h1, h2, h3, h4, h5, h6, h7⟩ := h
  simp only [AssociatedData.aad, AssociatedData.members, h1, h2, h3, h4, h5, h6,
    (rfc3339Seconds_eq_iff _ _).2 h7]

theorem sameRecord_settled : SameRecord d d.settled :=
  ⟨rfl, rfl, rfl, rfl, rfl, rfl, boundTime_boundTime _⟩

/-- **The associated data of two descriptions are equal when they are of one record.** -/
theorem canonicalJson_aad_eq_iff (d' : AssociatedData) :
    canonicalJson d'.aad = canonicalJson d.aad ↔ SameRecord d d' := by
  refine ⟨fun h => ?_, fun h => by rw [h.aad_eq]⟩
  have hlookup := (canonicalJson_inj (determined_aad d') (determined_aad d) h).lookup
    (determined_aad d')
  have hstr : ∀ {k s s'}, d'.members.lookup k = some (.str s') →
      d.members.lookup k = some (.str s) → s' = s := by
    intro k s s' h1 h2
    have := hlookup k
    rw [h1, h2] at this
    exact Json.str.inj (Option.some.inj this)
  have hint : ∀ {k n n'}, d'.members.lookup k = some (.int n') →
      d.members.lookup k = some (.int n) → n' = n := by
    intro k n n' h1 h2
    have := hlookup k
    rw [h1, h2] at this
    exact Json.int.inj (Option.some.inj this)
  have hcreated : String.ofList (rfc3339Seconds d'.createdAt)
      = String.ofList (rfc3339Seconds d.createdAt) :=
    hstr (show _ = some _ from rfl) (show d.members.lookup "created_at" = some _ from rfl)
  exact ⟨hstr rfl (show d.members.lookup "board_id" = some _ from rfl),
    hint rfl (show d.members.lookup "epoch" = some _ from rfl),
    hint rfl (show d.members.lookup "policy_version" = some _ from rfl),
    hstr rfl (show d.members.lookup "record_id" = some _ from rfl),
    hstr rfl (show d.members.lookup "record_type" = some _ from rfl),
    hstr rfl (show d.members.lookup "author_pairwise_id" = some _ from rfl),
    (rfc3339Seconds_eq_iff _ _).1 (String.ofList_injective hcreated)⟩

theorem unb64_b64 (b : Binary) : unb64 (b64 b) = some b := by
  rw [unb64, b64, bytes_ofList]
  exact decodeNormalized64_encodeUrl64 b

theorem decodeUrl64_b64 (b : Binary) : decodeUrl64 (bytes (b64 b)) = some b := by
  rw [b64, bytes_ofList]
  exact decodeUrl64_encodeUrl64 b

theorem b64_ne_empty {b : Binary} (h : b ≠ []) : b64 b ≠ "" := by
  intro hb
  have hread := decodeUrl64_b64 b
  rw [hb] at hread
  exact h (Option.some.inj hread).symm

theorem decode_clear {f : List (String × Json)} (hf : (Json.obj f).Determined) :
    ∃ g, (utf8Decode (canonicalJson (.obj f)).utf8).bind Json.decode = some (.obj g) ∧
      (Json.obj f).Reordered (.obj g) := by
  obtain ⟨r, hr⟩ := exists_canonicalJson_obj f
  have hvalid : utf8Decode (canonicalJson (.obj f)).utf8 = some (canonicalJson (.obj f)) := by
    rw [utf8Decode, AppView.validText, decodeUtf8_utf8, if_pos rfl, Option.map_some, if_neg]
    rw [hr, List.head?_cons]
    decide
  refine ⟨_, ?_, reordered_canonicalValue (.obj f)⟩
  rw [hvalid, Option.bind_some, decode_canonicalJson hf]
  rfl

/-! ### Reading an envelope -/

/-- What a reader asks of an envelope. -/
structure PrivateBoardContentEnvelope.Readable (e : PrivateBoardContentEnvelope) : Prop where
  boardId : e.boardId ≠ ""
  epoch : 0 < e.epoch
  policyVersion : 0 < e.policyVersion
  recordId : e.recordId ≠ ""
  recordType : e.recordType ≠ ""
  authorPairwiseId : e.authorPairwiseId ≠ ""
  nonce : e.nonce ≠ ""
  ciphertext : e.ciphertext ≠ ""
  mac : e.mac ≠ ""

theorem requiredString_eq {json : Json} {key s : String} (h : json.fetch key = .str s) :
    requiredString json key = if s ≠ "" then .ok s else .error .invalidEnvelope := by
  rw [requiredString, h, ite_not]

theorem requiredPositiveInt_eq {json : Json} {key : String} {n : ℤ} (h : json.fetch key = .int n) :
    requiredPositiveInt json key = if 0 < n then .ok n else .error .invalidEnvelope := by
  rw [requiredPositiveInt, h]

theorem ite_bind {α β ε : Type} {p : Prop} [Decidable p] (a : α) (error : ε) (f : α → Except ε β) :
    ((if p then Except.ok a else .error error) >>= f) = if p then f a else .error error := by
  split <;> rfl

/-- **What an envelope writes is read back**, with the creation time that is bound. -/
theorem fromJson_toJson (toUtc : ℤ → ℤ) (e : PrivateBoardContentEnvelope) :
    (e.Readable → PrivateBoardContentEnvelope.fromJson toUtc e.toJson
      = .ok { e with toAssociatedData := e.settled }) ∧
    (¬ e.Readable → PrivateBoardContentEnvelope.fromJson toUtc e.toJson
      = .error .invalidEnvelope) := by
  have hcreated : tryParse toUtc (e.toJson.fetch "created_at")
      = some ⟨boundTime e.createdAt, abs_boundTime e.createdAt.2⟩ := by
    have hfetch : e.toJson.fetch "created_at"
        = .str (String.ofList (rfc3339Seconds e.createdAt)) := rfl
    rw [hfetch, tryParse]
    simp only [Option.bind_some, (boundTime_spec e.createdAt.2).1,
      dif_pos (abs_boundTime e.createdAt.2)]
  have hversion : (!(e.toJson.fetch "version").eqv (.int 1) ||
      !(e.toJson.fetch "algorithm").eqv (.str "A256GCM")) = false := by
    have h1 : e.toJson.fetch "version" = .int 1 := rfl
    have h2 : e.toJson.fetch "algorithm" = .str "A256GCM" := rfl
    rw [h1, h2]
    decide
  have hread : PrivateBoardContentEnvelope.fromJson toUtc e.toJson =
      if e.boardId ≠ "" then if 0 < e.epoch then if 0 < e.policyVersion then
        if e.recordId ≠ "" then if e.recordType ≠ "" then if e.authorPairwiseId ≠ "" then
          if e.nonce ≠ "" then if e.ciphertext ≠ "" then if e.mac ≠ "" then
            .ok { e with toAssociatedData := e.settled }
          else .error .invalidEnvelope else .error .invalidEnvelope else .error .invalidEnvelope
        else .error .invalidEnvelope else .error .invalidEnvelope else .error .invalidEnvelope
      else .error .invalidEnvelope else .error .invalidEnvelope else .error .invalidEnvelope := by
    have hboard : e.toJson.fetch "board_id" = .str e.boardId := rfl
    have hepoch : e.toJson.fetch "epoch" = .int e.epoch := rfl
    have hpolicy : e.toJson.fetch "policy_version" = .int e.policyVersion := rfl
    have hrecord : e.toJson.fetch "record_id" = .str e.recordId := rfl
    have htype : e.toJson.fetch "record_type" = .str e.recordType := rfl
    have hauthor : e.toJson.fetch "author_pairwise_id" = .str e.authorPairwiseId := rfl
    have hnonce : e.toJson.fetch "nonce" = .str e.nonce := rfl
    have hcipher : e.toJson.fetch "ciphertext" = .str e.ciphertext := rfl
    have hmac : e.toJson.fetch "mac" = .str e.mac := rfl
    unfold PrivateBoardContentEnvelope.fromJson
    rw [hversion, hcreated, requiredString_eq hboard, requiredPositiveInt_eq hepoch,
      requiredPositiveInt_eq hpolicy, requiredString_eq hrecord, requiredString_eq htype,
      requiredString_eq hauthor, requiredString_eq hnonce, requiredString_eq hcipher,
      requiredString_eq hmac]
    simp only [ite_bind]
    rfl
  rw [hread]
  refine ⟨fun h => ?_, fun h => ?_⟩
  · rw [if_pos h.boardId, if_pos h.epoch, if_pos h.policyVersion, if_pos h.recordId,
      if_pos h.recordType, if_pos h.authorPairwiseId, if_pos h.nonce, if_pos h.ciphertext,
      if_pos h.mac]
  · simp only [ite_eq_right_iff]
    intro h1 h2 h3 h4 h5 h6 h7 h8 h9
    exact absurd ⟨h1, h2, h3, h4, h5, h6, h7, h8, h9⟩ h

/-! ### Sealed envelopes -/

/-- The service's box of a content opens under no other associated data. -/
def Bound (A : AesGcm) (store : BoardEpochKeyStore) (nonce : Nonce) (d : AssociatedData)
    (plaintext : List (String × Json)) : Prop :=
  ∀ key, store.get d.boardId d.epoch = some key →
    A.Binds (canonicalJson (.obj plaintext)).utf8 key nonce (canonicalJson d.aad).utf8

/-- Whether the relay takes the envelope of a content. -/
def Accepted (d : AssociatedData) (plaintext : List (String × Json)) : Prop :=
  (1 ≤ (bytes d.authorPairwiseId).length ∧ (bytes d.authorPairwiseId).length ≤ 512) ∧
  (yearOf d.createdAt).natAbs < 10000 ∧ (canonicalJson (.obj plaintext)).utf8.length ≤ 1048576

instance (d : AssociatedData) (plaintext : List (String × Json)) :
    Decidable (Accepted d plaintext) := inferInstanceAs (Decidable (_ ∧ _))

/-- What holds of the envelope of a content. -/
structure EnvelopeLaw (A : AesGcm) (store : BoardEpochKeyStore) (plaintext : List (String × Json))
    (e : PrivateBoardContentEnvelope) : Prop where
  /-- Decryption gives the content, up to the order of members. -/
  decrypts : ∃ clear, decryptContent A store e = .ok clear ∧
    (Json.obj plaintext).Reordered (.obj clear)
  /-- Its box opens in an envelope with the same record only. -/
  binds : ∀ e' : PrivateBoardContentEnvelope, e'.nonce = e.nonce → e'.ciphertext = e.ciphertext →
    e'.mac = e.mac → ((∃ clear, decryptContent A store e' = .ok clear) ↔
      SameRecord e.toAssociatedData e'.toAssociatedData)
  /-- The check of the relay, for the board as it is and the record of the op. -/
  accepted : ∀ board : ForumHostBoard, board.hostedBoardId = e.boardId →
    board.encryptionEpoch = e.epoch → board.accessPolicyVersion = e.policyVersion →
    PrivateBoardKeys.validContentEnvelope board e.recordType e.recordId e.toJson
      = some (decide (Accepted e.toAssociatedData plaintext))
  /-- What is left of the conditions of a reader. -/
  readable : e.Readable ↔ e.boardId ≠ "" ∧ 0 < e.policyVersion ∧ e.recordId ≠ "" ∧
    e.recordType ≠ "" ∧ e.authorPairwiseId ≠ ""

section Sealed

variable {A : AesGcm} {store : BoardEpochKeyStore} {nonce : Nonce} {d : AssociatedData}
  {plaintext : List (String × Json)} {e : PrivateBoardContentEnvelope}

theorem encryptContent_eq_ok (he : encryptContent A store nonce d plaintext = .ok e) :
    ∃ key clear aad box, store.get d.boardId d.epoch = some key ∧
      clear = (canonicalJson (.obj plaintext)).utf8 ∧ aad = (canonicalJson d.aad).utf8 ∧
      box = A.encrypt clear key nonce aad ∧
      e = { d with nonce := b64 nonce, ciphertext := b64 box.1, mac := b64 box.2 } := by
  unfold encryptContent at he
  split at he
  · cases he
  · next key hkey => exact ⟨key, _, _, _, hkey, rfl, rfl, rfl, (Except.ok.inj he).symm⟩

/-- **A box opens for the record that it was sealed for**, and for no other. -/
theorem decryptContent_iff (hA : A.Lawful) (hplain : (Json.obj plaintext).Determined)
    (he : encryptContent A store nonce d plaintext = .ok e)
    (hbound : Bound A store nonce d plaintext) {e' : PrivateBoardContentEnvelope}
    (hn : e'.nonce = e.nonce) (hc : e'.ciphertext = e.ciphertext) (hm : e'.mac = e.mac) :
    (SameRecord e.toAssociatedData e'.toAssociatedData → ∃ clear,
      decryptContent A store e' = .ok clear ∧ (Json.obj plaintext).Reordered (.obj clear)) ∧
    ((∃ clear, decryptContent A store e' = .ok clear) →
      SameRecord e.toAssociatedData e'.toAssociatedData) := by
  obtain ⟨key, clear, aad, box, hkey, hclear, haad, hbox, rfl⟩ := encryptContent_eq_ok he
  dsimp only at hn hc hm ⊢
  have hopen : decryptContent A store e' =
      match store.get e'.boardId e'.epoch with
      | none => .error .epochKeyUnavailable
      | some key' =>
        match A.decrypt box.1 box.2 key' nonce (canonicalJson e'.aad).utf8 with
        | none => .error .authenticationFailed
        | some clear =>
          match (utf8Decode clear).bind Json.decode with
          | none => .error .formatException
          | some (.obj f) => .ok f
          | some _ => .error .invalidPlaintext := by
    rw [decryptContent, hn, hc, hm, unb64_b64, unb64_b64, unb64_b64]
  constructor
  · -- one record gives one text of associated data
    intro hsame
    obtain ⟨g, hg, hreordered⟩ := decode_clear hplain
    have hdec := hA.decrypt_encrypt clear key nonce aad key.2 nonce.2
    rw [← hbox, haad] at hdec
    refine ⟨g, ?_, hreordered⟩
    rw [hopen, hsame.boardId, hsame.epoch, hkey, hsame.aad_eq]
    dsimp only
    rw [hdec, hclear]
    dsimp only
    rw [hg]
  · -- a box that opens is bound to what it was sealed with
    rintro ⟨clear', hok⟩
    rw [hopen] at hok
    split at hok
    · cases hok
    next key' _ =>
    cases hdec : A.decrypt box.1 box.2 key' nonce (canonicalJson e'.aad).utf8 with
    | none =>
      rw [hdec] at hok
      cases hok
    | some _ =>
      have hne : A.decrypt box.1 box.2 key' nonce (canonicalJson e'.aad).utf8 ≠ none := by
        rw [hdec]
        exact Option.some_ne_none _
      rw [hbox, hclear, haad] at hne
      exact (canonicalJson_aad_eq_iff d _).1 (Text.utf8_injective (hbound key hkey _ _ hne))

/-- The conditions that the relay leaves open. -/
theorem validContentEnvelope_toJson (hA : A.Lawful)
    (he : encryptContent A store nonce d plaintext = .ok e) {board : ForumHostBoard}
    (hid : board.hostedBoardId = e.boardId) (hepoch : board.encryptionEpoch = e.epoch)
    (hpolicy : board.accessPolicyVersion = e.policyVersion) :
    PrivateBoardKeys.validContentEnvelope board e.recordType e.recordId e.toJson
      = some (decide (Accepted e.toAssociatedData plaintext)) := by
  obtain ⟨key, clear, aad, box, hkey, hclear, haad, hbox, rfl⟩ := encryptContent_eq_ok he
  obtain ⟨r, hr⟩ := exists_canonicalJson_obj plaintext
  have hlen : box.1.length = clear.length := hbox ▸ hA.length_cipherText clear key nonce aad
  have hpos : 1 ≤ clear.length := by
    rw [hclear, hr, utf8_cons_of_ascii (by decide), List.length_cons]
    omega
  have hjson : PrivateBoardContentEnvelope.toJson { d with
        nonce := b64 nonce, ciphertext := b64 box.1, mac := b64 box.2 }
      = .obj [("version", .int 1), ("board_id", .str board.hostedBoardId),
        ("epoch", .int board.encryptionEpoch), ("record_id", .str d.recordId),
        ("record_type", .str d.recordType), ("author_pairwise_id", .str d.authorPairwiseId),
        ("created_at", .str (String.ofList (rfc3339Seconds d.createdAt))),
        ("policy_version", .int board.accessPolicyVersion), ("algorithm", .str "A256GCM"),
        ("nonce", .str (b64 nonce)), ("ciphertext", .str (b64 box.1)),
        ("mac", .str (b64 box.2))] := by
    rw [hid, hepoch, hpolicy]
    rfl
  rw [hjson, PrivateBoardKeys.validContentEnvelope_eq (decodeUrl64_b64 nonce) nonce.2
    (decodeUrl64_b64 box.2) (hbox ▸ hA.length_mac clear key nonce aad) (decodeUrl64_b64 box.1),
    (boundTime_spec d.createdAt.2).2, hlen]
  have hyear : (if (yearOf d.createdAt).natAbs < 10000 then some (boundTime d.createdAt, (0 : ℤ))
      else none).any (·.2 == 0) = decide ((yearOf d.createdAt).natAbs < 10000) := by
    split_ifs with h
    · simp [h]
    · simp [h]
  rw [hyear, hclear] at *
  refine congrArg some (Bool.eq_iff_iff.2 ?_)
  simp only [Accepted, Bool.and_eq_true, decide_eq_true_eq, and_assoc]
  constructor
  · rintro ⟨h1, h2, h3, -, h5⟩
    exact ⟨h1, h2, h3, h5⟩
  · rintro ⟨h1, h2, h3, h5⟩
    exact ⟨h1, h2, h3, hclear ▸ hpos, h5⟩

theorem readable_iff (hA : A.Lawful) (he : encryptContent A store nonce d plaintext = .ok e) :
    e.Readable ↔ e.boardId ≠ "" ∧ 0 < e.policyVersion ∧ e.recordId ≠ "" ∧ e.recordType ≠ "" ∧
      e.authorPairwiseId ≠ "" := by
  obtain ⟨key, clear, aad, box, hkey, hclear, haad, hbox, rfl⟩ := encryptContent_eq_ok he
  refine ⟨fun h => ⟨h.boardId, h.policyVersion, h.recordId, h.recordType, h.authorPairwiseId⟩,
    fun ⟨h1, h2, h3, h4, h5⟩ => ⟨h1, store.epoch_pos _ _ _ hkey, h2, h3, h4, h5, ?_, ?_, ?_⟩⟩
  · refine b64_ne_empty fun h => ?_
    have := nonce.2
    rw [h] at this
    cases this
  · obtain ⟨r, hr⟩ := exists_canonicalJson_obj plaintext
    have hlen : box.1.length = clear.length := hbox ▸ hA.length_cipherText clear key nonce aad
    refine b64_ne_empty fun h => ?_
    rw [h, hclear, hr, utf8_cons_of_ascii (by decide)] at hlen
    cases hlen
  · have hlen : box.2.length = 16 := hbox ▸ hA.length_mac clear key nonce aad
    refine b64_ne_empty fun h => ?_
    rw [h] at hlen
    cases hlen

end Sealed

/-- **Private envelopes.**  Whatever an envelope writes is read back, with the creation time that is
bound and the same associated data, if its texts are not empty and its numbers positive.  The
envelope of a content decrypts to it, opens for the record that it was made for and no other, and
is taken by the relay if its author has 1 to 512 bytes, its content at most 2²⁰ and its year at
most four digits. -/
theorem private_content {A : AesGcm} (hA : A.Lawful) {store : BoardEpochKeyStore} {nonce : Nonce}
    {d : AssociatedData} {plaintext : List (String × Json)}
    (hplain : (Json.obj plaintext).Determined) (hbound : Bound A store nonce d plaintext) :
    (∀ (toUtc : ℤ → ℤ) (e : PrivateBoardContentEnvelope),
      (e.Readable → ∃ e', PrivateBoardContentEnvelope.fromJson toUtc e.toJson = .ok e' ∧
        e'.aad = e.aad ∧ e' = { e with toAssociatedData := e.settled }) ∧
      (¬ e.Readable → PrivateBoardContentEnvelope.fromJson toUtc e.toJson
        = .error .invalidEnvelope)) ∧
    ∀ e, encryptContent A store nonce d plaintext = .ok e → EnvelopeLaw A store plaintext e := by
  refine ⟨fun toUtc e => ⟨fun h => ?_, (fromJson_toJson toUtc e).2⟩, fun e he => ?_⟩
  · exact ⟨_, (fromJson_toJson toUtc e).1 h, (sameRecord_settled e.toAssociatedData).aad_eq, rfl⟩
  · refine ⟨?_, fun e' hn hc hm => ?_, fun board hid hepoch hpolicy =>
      validContentEnvelope_toJson hA he hid hepoch hpolicy, readable_iff hA he⟩
    · exact (decryptContent_iff hA hplain he hbound rfl rfl rfl).1
        ⟨rfl, rfl, rfl, rfl, rfl, rfl, rfl⟩
    · have hopen := decryptContent_iff hA hplain he hbound hn hc hm
      refine ⟨hopen.2, fun h => ?_⟩
      obtain ⟨clear, hclear, -⟩ := hopen.1 h
      exact ⟨clear, hclear⟩

/-! ### A small board -/

/-- A cipher whose tag tells one associated data from all others. -/
def toyAesGcm (aad₀ : Binary) : AesGcm where
  encrypt clear _ _ aad := (clear, List.replicate 16 (if aad = aad₀ then 1 else 0))
  decrypt cipherText mac _ _ aad :=
    if mac = List.replicate 16 (if aad = aad₀ then 1 else 0) then some cipherText else none

theorem lawful_toyAesGcm (aad₀ : Binary) : (toyAesGcm aad₀).Lawful where
  decrypt_encrypt _ _ _ _ _ _ := if_pos rfl
  length_cipherText _ _ _ _ := rfl
  length_mac _ _ _ _ := List.length_replicate

theorem binds_toyAesGcm (clear key nonce aad₀ : Binary) :
    (toyAesGcm aad₀).Binds clear key nonce aad₀ := by
  intro key' aad' h
  by_contra hne
  apply h
  simp only [toyAesGcm, if_neg hne, if_true]
  rw [if_neg (by decide)]

def toyRecord : AssociatedData where
  boardId := "b"
  epoch := 1
  policyVersion := 1
  recordId := "p"
  recordType := "post"
  authorPairwiseId := "a"
  createdAt := ⟨0, by decide⟩

def toyContent : List (String × Json) := [("content", .str "hi")]

def toyNonce : Nonce := ⟨List.replicate 12 7, by decide⟩

def toyEpochKeys : BoardEpochKeyStore where
  get boardId epoch :=
    if boardId = "b" ∧ epoch = 1 then some ⟨List.replicate 32 9, by decide⟩ else none
  epoch_pos boardId epoch key h := by
    split at h
    · next hb =>
      rw [hb.2]
      decide
    · cases h

/-- A cipher that knows the record. -/
def toyCipher : AesGcm := toyAesGcm (canonicalJson toyRecord.aad).utf8

theorem bound_toy : Bound toyCipher toyEpochKeys toyNonce toyRecord toyContent :=
  fun _ _ => binds_toyAesGcm _ _ _ _

theorem determined_toyContent : (Json.obj toyContent).Determined :=
  ⟨by decide, trivial, trivial⟩

def toyBox : Binary × Binary :=
  toyCipher.encrypt (canonicalJson (.obj toyContent)).utf8 (List.replicate 32 9) toyNonce
    (canonicalJson toyRecord.aad).utf8

def toyEnvelope : PrivateBoardContentEnvelope :=
  { toyRecord with nonce := b64 toyNonce, ciphertext := b64 toyBox.1, mac := b64 toyBox.2 }

theorem encryptContent_toy :
    encryptContent toyCipher toyEpochKeys toyNonce toyRecord toyContent = .ok toyEnvelope := rfl

theorem private_content_toy :
    encryptContent toyCipher toyEpochKeys toyNonce toyRecord toyContent = .ok toyEnvelope ∧
    EnvelopeLaw toyCipher toyEpochKeys toyContent toyEnvelope :=
  ⟨encryptContent_toy, (private_content (lawful_toyAesGcm _) determined_toyContent bound_toy).2 _
    encryptContent_toy⟩

def movedEnvelope : PrivateBoardContentEnvelope :=
  { toyEnvelope with createdAt := ⟨1000, by decide⟩ }

/-- A creation time may be moved by a millisecond. -/
theorem moved_creation_decrypts :
    encryptContent toyCipher toyEpochKeys toyNonce toyRecord toyContent = .ok toyEnvelope ∧
    movedEnvelope = { toyEnvelope with createdAt := movedEnvelope.createdAt } ∧
    movedEnvelope.createdAt ≠ toyEnvelope.createdAt ∧
    ∃ clear, decryptContent toyCipher toyEpochKeys movedEnvelope = .ok clear := by
  obtain ⟨clear, hclear, -⟩ := (decryptContent_iff (lawful_toyAesGcm _) determined_toyContent
    encryptContent_toy bound_toy (show movedEnvelope.nonce = toyEnvelope.nonce from rfl) rfl rfl).1
    ⟨rfl, rfl, rfl, rfl, rfl, rfl, by decide⟩
  exact ⟨encryptContent_toy, rfl, by decide, clear, hclear⟩

end Client

end Ansible
