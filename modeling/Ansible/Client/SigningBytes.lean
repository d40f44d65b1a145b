import Ansible.Client.RemoteActivity
import Ansible.Relay.OpsDelta

/-!
# The bytes that an author signs

Six fields of an op are signed, as an object in the order of its keys.  The app, the relay and the
AppView each write it themselves, and leave the strings to the encoder of their language.

## Main definitions

* `SignedFields` — the six fields.
* `SignedFields.app`, `SignedFields.relay`, `SignedFields.appView` — what the three sign or verify.
* `SignedFields.BytesAgree`, `SignedFields.CoversOne` — the bytes are the same, and belong to one
  op.

## Main results

* `SignedFields.agree_and_cover_iff` — **the bytes agree and cover one op exactly for the ops whose
  fields are not lettered.**
-/

namespace Ansible

/-- The fields of an op that its author signs. -/
structure SignedFields where
  opId : String
  authorDid : String
  entityType : String
  entityId : String
  opType : String
  payload : String
  deriving DecidableEq, Repr

namespace SignedFields

open Json (commaSep stringMembers)

/-! ### The three texts -/

/-- `OpSignaturePayload.fromFields` -/
def app (f : SignedFields) : Text :=
  Client.SignedOp.signingPayload
    ⟨f.opId, f.authorDid, f.entityType, f.entityId, f.opType, f.payload, "", none⟩

/-- `signing_payload` -/
def relay (f : SignedFields) : Text :=
  OpsController.signingPayload
    ⟨f.opId, f.authorDid, f.entityType, f.entityId, f.opType, f.payload, "", 1, ""⟩

/-- `SigningPayload.build` -/
def appView (f : SignedFields) : Text :=
  AppView.signingPayload
    { logId := 0, opId := f.opId, authorDid := f.authorDid, entityType := f.entityType
      entityId := f.entityId, opType := f.opType, payload := .str f.payload, signature := none
      publicKeyHex := none, signingAlgorithm := none, canonicalAuthorDid := none
      reputationTier := none, receivedAt := none, removed := false }

/-- The fields of an op of the app. -/
def ofApp (op : Client.SignedOp) : SignedFields :=
  ⟨op.opId, op.authorDid, op.entityType, op.entityId, op.opType, op.payload⟩

def ofRelay (op : OpStore.Op) : SignedFields :=
  ⟨op.opId, op.authorDid, op.entityType, op.entityId, op.opType, op.payload⟩

theorem app_ofApp (op : Client.SignedOp) : (ofApp op).app = op.signingPayload := rfl

theorem relay_ofRelay (op : OpStore.Op) : (ofRelay op).relay = OpsController.signingPayload op :=
  rfl

def keys : List String :=
  ["author_did", "entity_id", "entity_type", "op_id", "op_type", "payload"]

def values (f : SignedFields) : List String :=
  [f.authorDid, f.entityId, f.entityType, f.opId, f.opType, f.payload]

/-- The members of the object, in the order of their keys. -/
def members (f : SignedFields) : List (String × String) := keys.zip f.values

theorem members_injective {f g : SignedFields} (h : f.members = g.members) : f = g := by
  have hvalues : f.values = g.values := congrArg (List.map Prod.snd) h
  obtain ⟨hauthor, h⟩ := List.cons.inj hvalues
  obtain ⟨hentity, h⟩ := List.cons.inj h
  obtain ⟨htype, h⟩ := List.cons.inj h
  obtain ⟨hop, h⟩ := List.cons.inj h
  obtain ⟨hopType, h⟩ := List.cons.inj h
  obtain ⟨hpayload, -⟩ := List.cons.inj h
  cases f
  cases g
  simp_all

theorem pairwise_keys : (keys.Pairwise fun a b => bytes a ≤ bytes b) ∧
    keys.Pairwise fun a b => codeUnits a ≤ codeUnits b := by
  decide +kernel

variable (f : SignedFields)

theorem canonicalFields_eq : f.relay
      = '{' :: (commaSep (stringMembers Json.encodeString f.members) ++ ['}']) ∧
    f.app = '{' :: (commaSep (stringMembers DartJson.encodeString f.members) ++ ['}']) := by
  obtain ⟨hbytes, hunits⟩ := pairwise_keys
  constructor
  · unfold relay OpsController.signingPayload
    rw [AppView.canonicalJson, List.Pairwise.insertionSort_eq]
    · rfl
    · exact (List.pairwise_map (f := Prod.fst) (R := fun a b => bytes a ≤ bytes b)).1 hbytes
  · unfold app Client.SignedOp.signingPayload
    rw [DartJson.canonicalJson, List.Pairwise.insertionSort_eq]
    · rfl
    · refine (List.pairwise_map (f := Prod.fst)
        (R := fun a b => codeUnits a ≤ codeUnits b)).1 ?_
      exact hunits

theorem appView_eq_relay : f.appView = f.relay := rfl

/-! ### The bytes belong to one op -/

/-- **The text of an op determines its fields**, whichever of the three has written it. -/
theorem eq_of_text_eq {f g : SignedFields} {t : Text} (hf : t ∈ [f.app, f.relay, f.appView])
    (hg : t ∈ [g.app, g.relay, g.appView]) : f = g := by
  have hread : ∀ {f : SignedFields} {t : Text}, t ∈ [f.app, f.relay, f.appView] →
      ∃ escape, Json.ReadBack escape ∧ t = '{' :: (commaSep (stringMembers
        (fun s => '"' :: ((chars s).flatMap escape ++ ['"'])) f.members) ++ ['}']) := by
    intro f t ht
    obtain ⟨hrelay, happ⟩ := canonicalFields_eq f
    rw [appView_eq_relay] at ht
    simp only [List.mem_cons, List.not_mem_nil, or_false, or_self] at ht
    rcases ht with rfl | rfl
    · exact ⟨_, DartJson.parseString_escapeChar, happ⟩
    · exact ⟨_, Json.parseString_escapeChar, hrelay⟩
  obtain ⟨escape, hescape, htext⟩ := hread hf
  obtain ⟨escape', hescape', htext'⟩ := hread hg
  have heq := (List.cons.inj (htext.symm.trans htext')).2
  exact members_injective ((Json.delimited_of_readBack hescape hescape').join_inj rfl heq)

/-! ### Where the bytes agree -/

/-- The two encoders write an escape of the string differently. -/
def Lettered (s : String) : Prop := ∃ c ∈ chars s, DartJson.HasLetter c

instance : DecidablePred Lettered := fun s =>
  decidable_of_iff ((chars s).any fun c => decide (DartJson.HasLetter c)) (by simp [Lettered])

theorem encodeString_eq_iff {s : String} :
    DartJson.encodeString s = Json.encodeString s ↔ ¬ Lettered s := by
  rw [DartJson.encodeString_eq_iff, Lettered]
  push Not
  rfl

theorem not_lettered_keys : ∀ k ∈ keys, ¬ Lettered k := by
  decide +kernel

/-- **The app and the relay write the same text exactly when no field is lettered.** -/
theorem app_eq_relay_iff : f.app = f.relay ↔ ∀ s ∈ f.values, ¬ Lettered s := by
  obtain ⟨hrelay, happ⟩ := canonicalFields_eq f
  have hlengths : (stringMembers DartJson.encodeString f.members).map List.length
      = (stringMembers Json.encodeString f.members).map List.length := by
    simp only [stringMembers, List.map_map, Function.comp_def, List.length_append,
      List.length_cons, DartJson.length_encodeString]
  rw [hrelay, happ, List.cons.injEq, List.append_left_inj, eq_self, true_and,
    Json.commaSep_inj hlengths, stringMembers, stringMembers, List.map_inj_left]
  have hmember : ∀ kv ∈ f.members, (DartJson.encodeString kv.1 ++ ':' :: DartJson.encodeString kv.2
      = Json.encodeString kv.1 ++ ':' :: Json.encodeString kv.2 ↔ ¬ Lettered kv.2) := by
    intro kv hkv
    rw [encodeString_eq_iff.2 (not_lettered_keys kv.1 (List.of_mem_zip hkv).1),
      List.append_right_inj, List.cons.injEq, eq_self, true_and, encodeString_eq_iff]
  constructor
  · intro h s hs
    obtain ⟨kv, hkv, rfl⟩ : ∃ kv ∈ f.members, kv.2 = s := by
      rw [← List.mem_map]
      exact hs
    exact (hmember kv hkv).1 (h kv hkv)
  · intro h kv hkv
    exact (hmember kv hkv).2 (h kv.2 (List.of_mem_zip hkv).2)

/-- The three produce the same bytes. -/
def BytesAgree (f : SignedFields) : Prop :=
  f.app.utf8 = f.relay.utf8 ∧ f.appView.utf8 = f.relay.utf8

/-- No other op has the bytes of this one, with any of the three. -/
def CoversOne (f : SignedFields) : Prop :=
  ∀ g : SignedFields, ∀ t ∈ [f.app, f.relay, f.appView], ∀ u ∈ [g.app, g.relay, g.appView],
    t.utf8 = u.utf8 → g = f

theorem coversOne : CoversOne f := by
  intro g t ht u hu h
  exact eq_of_text_eq hu (Text.utf8_injective h ▸ ht)

/-- **The bytes of the three agree and cover one op exactly for the ops whose fields are not
lettered**: no field has a control character whose escape has a letter among its digits.  The
texts differ in the escapes of control characters alone, and UTF-8 tells different texts apart. -/
theorem agree_and_cover_iff (f : SignedFields) :
    f.BytesAgree ∧ f.CoversOne ↔ ∀ s ∈ f.values, ¬ Lettered s := by
  rw [and_iff_left (coversOne f), BytesAgree, appView_eq_relay, and_iff_left rfl,
    ← app_eq_relay_iff]
  exact ⟨Text.utf8_injective, congrArg Text.utf8⟩

/-- An op whose payload is the unit separator. -/
def separated : SignedFields := ⟨"op-1", "did:plc:alice", "murmur", "m-1", "insert", "\x1f"⟩

/-- **The app signs other bytes than the relay verifies**: it writes the unit separator in lower
case. -/
theorem separated_disagree : ¬ (separated.BytesAgree ∧ separated.CoversOne) := by
  rintro ⟨⟨h, -⟩, -⟩
  have hplain := (app_eq_relay_iff separated).1 (Text.utf8_injective h)
  revert hplain
  decide +kernel

end SignedFields

end Ansible
