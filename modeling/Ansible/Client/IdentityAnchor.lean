import Ansible.Lib.DartDateTime
import Ansible.Relay.ServedChain

/-!
# The anchor object of the app

The app reads an anchor object into a record of its own and rebuilds the signed body from the
record.  Custody classes and reasons are enumerations, times are instants.

## Main definitions

* `Client.IdentityAnchor.fromMap` — the record of an object, `none` where Dart throws.
* `Client.IdentityAnchor.canonicalBodyJson`, `Client.IdentityAnchor.computeCid` — the rebuilt
  body and its identifier.

## Main results

* `Client.fromMap_of_serves` — **a served object of version 4 is read, and its body rebuilt.**
-/

namespace Ansible

namespace Client

/-! ### Enumerations -/

inductive CustodyClass
  | software
  | hardware
  deriving DecidableEq, Repr

def CustodyClass.storageValue : CustodyClass → String
  | .software => "software"
  | .hardware => "hardware"

def CustodyClass.parse (value : String) : Option CustodyClass :=
  [CustodyClass.software, .hardware].find? fun c => c.storageValue == value

inductive AnchorReason
  | initial
  | rotation
  | recovery
  | deviceChange
  deriving DecidableEq, Repr

def AnchorReason.storageValue : AnchorReason → String
  | .initial => "initial"
  | .rotation => "rotation"
  | .recovery => "recovery"
  | .deviceChange => "device_change"

def AnchorReason.parse (value : String) : Option AnchorReason :=
  [AnchorReason.initial, .rotation, .recovery, .deviceChange].find? fun r =>
    r.storageValue == value

/-! ### Casts -/

/-- `value! as String`. -/
def asString : Json → Option String
  | .str s => some s
  | _ => none

/-- `value as String?` -/
def asStringOrNull : Json → Option (Option String)
  | .null => some none
  | .str s => some (some s)
  | _ => none

/-- `(value as List?) ?? const []` -/
def asListOrEmpty : Json → Option (List Json)
  | .null => some []
  | .arr l => some l
  | _ => none

/-- `value as Map?` -/
def asMapOrNull : Json → Option (Option Json)
  | .null => some none
  | .obj f => some (some (.obj f))
  | _ => none

/-- `(value as num?)?.toInt()` -/
def asIntOrNull : Json → Option (Option ℤ)
  | .null => some none
  | .int i => some (some i)
  | .float q => some (some (q.num.tdiv q.den))
  | _ => none

/-! ### Genesis commitments -/

/-- `buildDidElixV1GenesisCommitment`: an `ArgumentError` for a malformed key or nonce. -/
def buildCommitment (genesisKey genesisNonceHex : String) : Option Json :=
  if DidElix.isGenesisKey genesisKey ∧ DidElix.isHex64 genesisNonceHex then
    some (.obj [("method", .str "did:elix"), ("method_version", .int 1),
      ("genesis_key", .str genesisKey), ("genesis_nonce", .str genesisNonceHex)])
  else none

/-- `normalizeDidElixV1GenesisCommitment`: the four members and no others. -/
def normalizeCommitment (commitment : Json) : Option Json := do
  let expected := ["method", "method_version", "genesis_key", "genesis_nonce"]
  if (commitment.keys.all (expected.contains ·) && expected.all (commitment.keys.contains ·) &&
      (commitment.fetch "method").eqv (.str "did:elix") &&
      (commitment.fetch "method_version").eqv (.int 1)) = true then
    let key ← asStringOrNull (commitment.fetch "genesis_key")
    let nonce ← asStringOrNull (commitment.fetch "genesis_nonce")
    buildCommitment (key.getD "") (nonce.getD "")
  else none

/-- `deriveDidElixV1` -/
def deriveDidElixV1 (P : Platform) (genesisKey genesisNonceHex : String) : Option String := do
  let commitment ← buildCommitment genesisKey genesisNonceHex
  return String.ofList (chars "did:elix:z" ++ encode32 (P.sha256 commitment.encode.utf8))

/-! ### Records -/

structure AnchorDeviceRecord where
  deviceId : String
  deviceKey : String
  custodyClass : CustodyClass
  /-- An instant in UTC. -/
  enrolledAt : ℤ
  attestationSig : String

def AnchorDeviceRecord.attestedMembers (d : AnchorDeviceRecord) : List (String × Json) :=
  [("device_id", .str d.deviceId), ("device_key", .str d.deviceKey),
    ("custody_class", .str d.custodyClass.storageValue),
    ("enrolled_at", .str (DartDateTime.toIso8601String d.enrolledAt))]

/-- `DeviceKey.attestationMessageFor` -/
def AnchorDeviceRecord.attestationMessage (d : AnchorDeviceRecord) : Text :=
  Json.encode (.obj d.attestedMembers)

def AnchorDeviceRecord.toCanonicalMap (d : AnchorDeviceRecord) : Json :=
  .obj (d.attestedMembers ++ [("attestation_sig", .str d.attestationSig)])

/-- `toUtc` takes the local times of the device to UTC. -/
def AnchorDeviceRecord.fromMap (toUtc : ℤ → ℤ) (map : Json) : Option AnchorDeviceRecord := do
  if map.isObj = true then
    let deviceId ← asString (map.fetch "device_id")
    let deviceKey ← asString (map.fetch "device_key")
    let custodyClass ← CustodyClass.parse (← asString (map.fetch "custody_class"))
    let enrolledAt ← DartDateTime.parseUtc toUtc (← asString (map.fetch "enrolled_at"))
    let attestationSig ← asString (map.fetch "attestation_sig")
    return { deviceId, deviceKey, custodyClass, enrolledAt, attestationSig }
  else none

structure IdentityAnchor where
  schemaVersion : ℤ
  did : String
  handle : String
  identityKey : String
  identityKeyAlgorithm : String
  genesisCommitment : Option Json
  alsoKnownAs : List String
  custodyClass : CustodyClass
  devices : List AnchorDeviceRecord
  prevAnchorCid : Option String
  reason : AnchorReason
  /-- An instant in UTC. -/
  createdAt : ℤ
  sig : String
  deviceSig : Option String

namespace IdentityAnchor

/-- The signed body; a `StateError` for a version 4 without a valid commitment. -/
def toCanonicalBody (a : IdentityAnchor) : Option Json := do
  let commitment ←
    if 4 ≤ a.schemaVersion then (a.genesisCommitment.bind normalizeCommitment).map some
    else some none
  return .obj ([("type", .str AnchorStore.anchorType), ("schema_version", .int a.schemaVersion),
      ("did", .str a.did), ("handle", .str a.handle), ("identity_key", .str a.identityKey)] ++
    (if 3 ≤ a.schemaVersion then
      [("identity_key_algorithm", .str a.identityKeyAlgorithm)] else []) ++
    commitment.toList.map (fun c => ("genesis_commitment", c)) ++
    [("also_known_as", .arr (a.alsoKnownAs.map .str)),
      ("custody_class", .str a.custodyClass.storageValue),
      ("devices", .arr (a.devices.map AnchorDeviceRecord.toCanonicalMap)),
      ("prev_anchor_cid", AnchorStore.textOrNull a.prevAnchorCid),
      ("reason", .str a.reason.storageValue),
      ("created_at", .str (DartDateTime.toIso8601String a.createdAt))])

/-- The scalar encoders of the two languages are taken to agree. -/
def canonicalBodyJson (a : IdentityAnchor) : Option Text := a.toCanonicalBody.map Json.encode

def computeCid (P : Platform) (a : IdentityAnchor) : Option String :=
  a.canonicalBodyJson.map fun body =>
    String.ofList (chars "sha256:" ++ encode16 (P.sha256 body.utf8))

/-- The record of an object.  The lazy cast of the aliases throws at their first use, which
every verification makes. -/
def fromMap (toUtc : ℤ → ℤ) (map : Json) : Option IdentityAnchor := do
  if (map.fetch "type").eqv (.str AnchorStore.anchorType) = true then
    let schemaVersion := (← asIntOrNull (map.fetch "schema_version")).getD 3
    let rawDevices ← asListOrEmpty (map.fetch "devices")
    let rawCommitment ← asMapOrNull (map.fetch "genesis_commitment")
    let did ← asString (map.fetch "did")
    let handle ← asString (map.fetch "handle")
    let identityKey ← asString (map.fetch "identity_key")
    let algorithm ← asStringOrNull (map.fetch "identity_key_algorithm")
    let alsoKnownAs ← (← asListOrEmpty (map.fetch "also_known_as")).mapM asString
    let genesisCommitment ←
      if 4 ≤ schemaVersion then (normalizeCommitment (rawCommitment.getD (.obj []))).map some
      else some rawCommitment
    let custodyClass ← CustodyClass.parse (← asString (map.fetch "custody_class"))
    let devices ← rawDevices.mapM (AnchorDeviceRecord.fromMap toUtc)
    let prevAnchorCid ← asStringOrNull (map.fetch "prev_anchor_cid")
    let reason ← AnchorReason.parse (← asString (map.fetch "reason"))
    let createdAt ← DartDateTime.parseUtc toUtc (← asString (map.fetch "created_at"))
    let sig ← asString (map.fetch "sig")
    let deviceSig ← asStringOrNull (map.fetch "device_sig")
    return {
      identityKeyAlgorithm := algorithm.getD "ed25519"
      schemaVersion, did, handle, identityKey, genesisCommitment, alsoKnownAs, custodyClass
      devices, prevAnchorCid, reason, createdAt, sig, deviceSig }
  else none

end IdentityAnchor

open AnchorStore

/-! ### Reading what is served -/

theorem exists_mapM {α β γ : Type} {f : β → Option γ} {g : α → β} {R : γ → α → Prop} {l : List α}
    (h : ∀ a ∈ l, ∃ c, f (g a) = some c ∧ R c a) :
    ∃ m, (l.map g).mapM f = some m ∧ List.Forall₂ R m l := by
  induction l with
  | nil => exact ⟨[], rfl, .nil⟩
  | cons a l ih =>
    obtain ⟨c, hc, hac⟩ := h a List.mem_cons_self
    obtain ⟨m, hm, hl⟩ := ih fun x hx => h x (List.mem_cons_of_mem _ hx)
    refine ⟨c :: m, ?_, .cons hac hl⟩
    rw [List.map_cons, List.mapM_cons, hc, hm]
    rfl

theorem CustodyClass.parse_of_mem {s : String} (h : s ∈ custodyClasses) :
    ∃ c, CustodyClass.parse s = some c ∧ c.storageValue = s := by
  simp only [custodyClasses, List.mem_cons, List.not_mem_nil, or_false] at h
  rcases h with rfl | rfl
  · exact ⟨.software, rfl, rfl⟩
  · exact ⟨.hardware, rfl, rfl⟩

/-- A canonical time is read, and written as it was. -/
theorem parseUtc_of_valid {j : Json} (h : validAnchorTimestamp j 4 = true) (toUtc : ℤ → ℤ) :
    ∃ s t, j = .str s ∧ DartDateTime.parseUtc toUtc s = some t ∧
      DartDateTime.toIso8601String t = s := by
  unfold validAnchorTimestamp at h
  split at h
  · next s =>
    rw [if_pos (by decide), Bool.and_eq_true] at h
    obtain ⟨t, ht, hs⟩ := DartDateTime.toIso8601String_parseUtc h.1 h.2 toUtc
    exact ⟨s, t, rfl, ht, hs⟩
  · cases h

theorem exists_str_of_any {j : Json} {p : String → Bool} (h : j.str?.any p = true) :
    ∃ s, j = .str s ∧ p s = true := by
  cases j with
  | str s => exact ⟨s, rfl, h⟩
  | _ => cases h

theorem exists_str_of_nonEmpty {j : Json} (h : nonEmptyStr j = true) :
    ∃ s, j = .str s ∧ s ≠ "" := by
  cases j with
  | str s => exact ⟨s, rfl, by simpa [nonEmptyStr] using h⟩
  | _ => cases h

/-- The record of a device and the device that the relay stored. -/
structure DeviceReadAs (r : AnchorDeviceRecord) (d : Json) : Prop where
  map : r.toCanonicalMap = canonicalDevice d
  message : r.attestationMessage = deviceAttestationMessage d
  deviceKey : d.fetch "device_key" = .str r.deviceKey
  deviceKey_hex : DidElix.isHex64 r.deviceKey = true
  attestationSig : d.fetch "attestation_sig" = .str r.attestationSig

theorem AnchorDeviceRecord.fromMap_canonicalDevice (toUtc : ℤ → ℤ) {d : Json}
    (h : validDevice 4 d = true) :
    ∃ r, AnchorDeviceRecord.fromMap toUtc (canonicalDevice d) = some r ∧ DeviceReadAs r d := by
  simp only [validDevice, Bool.and_eq_true] at h
  obtain ⟨⟨⟨⟨⟨-, hid⟩, hkey⟩, hcustody⟩, hat⟩, hsig⟩ := h
  obtain ⟨deviceId, hid, -⟩ := exists_str_of_nonEmpty hid
  obtain ⟨deviceKey, hkey, hhex⟩ := exists_str_of_any hkey
  obtain ⟨custody, hcustody, hmem⟩ := exists_str_of_any hcustody
  obtain ⟨enrolledAt, t, hat, hparse, hwrite⟩ := parseUtc_of_valid hat toUtc
  obtain ⟨sig, hsig, -⟩ := exists_str_of_nonEmpty hsig
  obtain ⟨c, hc, hcv⟩ := CustodyClass.parse_of_mem (by simpa using hmem)
  refine ⟨⟨deviceId, deviceKey, c, t, sig⟩, ?_, ?_⟩
  · rw [canonicalDevice, hid, hkey, hcustody, hat, hsig]
    simp [AnchorDeviceRecord.fromMap, Json.isObj, Json.fetch, List.lookup, asString, hc, hparse]
  · refine ⟨?_, ?_, hkey, hhex, hsig⟩
    · rw [canonicalDevice, hid, hkey, hcustody, hat, hsig]
      simp only [AnchorDeviceRecord.toCanonicalMap, AnchorDeviceRecord.attestedMembers, hcv, hwrite,
        List.cons_append, List.nil_append]
    · rw [deviceAttestationMessage, hid, hkey, hcustody, hat]
      simp only [AnchorDeviceRecord.attestationMessage, AnchorDeviceRecord.attestedMembers, hcv,
        hwrite]

/-- The record of a served object. -/
structure ReadAs (a : IdentityAnchor) (row : Ansible.IdentityAnchor) : Prop where
  schemaVersion : a.schemaVersion = 4
  did : a.did = row.did
  identityKey : a.identityKey = row.identityKey
  algorithm : a.identityKeyAlgorithm = row.identityKeyAlgorithm
  commitment : a.genesisCommitment = some (commitmentOf row)
  custody : a.custodyClass.storageValue = row.custodyClass
  devices : List.Forall₂ DeviceReadAs a.devices row.devices
  prev : a.prevAnchorCid = row.prevAnchorCid
  reason : a.reason.storageValue = Reason.toText row.reason
  sig : a.sig = row.sig
  deviceSig : a.deviceSig = row.deviceSig
  body : a.canonicalBodyJson = some row.canonicalBody

theorem asStringOrNull_textOrNull (s : Option String) :
    asStringOrNull (textOrNull s) = some s := by
  cases s <;> rfl

theorem AnchorReason.parse_toText (r : Reason) :
    ∃ r', AnchorReason.parse (Reason.toText r) = some r' ∧ r'.storageValue = Reason.toText r := by
  cases r with
  | initial => exact ⟨.initial, rfl, rfl⟩
  | rotation => exact ⟨.rotation, rfl, rfl⟩
  | recovery => exact ⟨.recovery, rfl, rfl⟩
  | deviceChange => exact ⟨.deviceChange, rfl, rfl⟩

theorem normalizeCommitment_of_serves {P : Platform} {o : Json} {row : Ansible.IdentityAnchor}
    (h : Serves P o row) : normalizeCommitment (commitmentOf row) = some (commitmentOf row) := by
  obtain ⟨key, nonce, hform, hk, hn⟩ := h.commitment_form
  rw [hform]
  simp [normalizeCommitment, Json.keys, Json.fetch, List.lookup, Json.eqv, asStringOrNull,
    buildCommitment, hk, hn]

theorem toCanonicalBody_devices {rs : List AnchorDeviceRecord} {ds : List Json}
    (h : List.Forall₂ DeviceReadAs rs ds) :
    rs.map AnchorDeviceRecord.toCanonicalMap = ds.map canonicalDevice := by
  induction h with
  | nil => rfl
  | cons hrd _ ih => rw [List.map_cons, List.map_cons, hrd.map, ih]

theorem mapM_asString {l : List Json} (h : ∀ j ∈ l, j.str?.isSome = true) :
    ∃ ss, l.mapM asString = some ss ∧ ss.map Json.str = l := by
  induction l with
  | nil => exact ⟨[], rfl, rfl⟩
  | cons j l ih =>
    obtain ⟨ss, hss, hl⟩ := ih fun x hx => h x (List.mem_cons_of_mem _ hx)
    obtain ⟨s, hs⟩ := Option.isSome_iff_exists.1 (h j List.mem_cons_self)
    rw [Json.str?_eq_some] at hs
    refine ⟨s :: ss, ?_, by rw [List.map_cons, hl, hs]⟩
    rw [List.mapM_cons, hss, hs]
    rfl

section Serves

variable {P : Platform} {o : Json} {row : Ansible.IdentityAnchor} (h : Serves P o row)
include h

/-- The body of a served object of version 4, member by member. -/
theorem bodyObject_of_serves : bodyObject o = .obj [("type", .str anchorType),
    ("schema_version", .int 4), ("did", .str row.did), ("handle", .str row.handle),
    ("identity_key", .str row.identityKey),
    ("identity_key_algorithm", .str row.identityKeyAlgorithm),
    ("genesis_commitment", commitmentOf row), ("also_known_as", o.fetch "also_known_as"),
    ("custody_class", .str row.custodyClass),
    ("devices", .arr (row.devices.map canonicalDevice)),
    ("prev_anchor_cid", textOrNull row.prevAnchorCid),
    ("reason", .str (Reason.toText row.reason)), ("created_at", o.fetch "created_at")] := by
  obtain ⟨l, haliases, -⟩ := h.aliases
  have hversion : schemaVersion o = 4 := by
    rw [schemaVersion, Json.fetch, h.version]
    rfl
  have hcommitment : commitmentValue o = commitmentOf row := by
    rw [commitmentValue, h.commitment, commitmentOf, canonicalCommitment_idem, ite_self]
  have hdevices : (AnchorStore.devices o).map canonicalDevice
      = row.devices.map canonicalDevice := by
    rw [AnchorStore.devices, h.devices]
    simp [listOf, canonicalDevice_idem]
  have hknown : Json.arr (alsoKnownAs o) = o.fetch "also_known_as" := by
    rw [alsoKnownAs, haliases, listOf]
  rw [bodyObject, hversion, hcommitment, hdevices, hknown, h.did, h.handle, h.identityKey,
    h.algorithm, h.custody, h.prev, h.reason]
  rfl

/-- **A served object of version 4 is read, and its body is rebuilt from the record.** -/
theorem fromMap_of_serves (toUtc : ℤ → ℤ) :
    ∃ a, IdentityAnchor.fromMap toUtc o = some a ∧ ReadAs a row := by
  obtain ⟨l, haliases, hall⟩ := h.aliases
  obtain ⟨ss, hss, hstr⟩ := mapM_asString hall
  obtain ⟨custody, hcustody, hcustodyValue⟩ := CustodyClass.parse_of_mem h.custody_mem
  obtain ⟨created, t, hcreated, hparse, hwrite⟩ := parseUtc_of_valid h.createdAt toUtc
  obtain ⟨reason, hreason, hreasonValue⟩ := AnchorReason.parse_toText row.reason
  obtain ⟨records, hrecords, hdevices⟩ := exists_mapM
    (fun d hd => AnchorDeviceRecord.fromMap_canonicalDevice toUtc (h.devices_valid d hd))
  have hnormal := normalizeCommitment_of_serves h
  obtain ⟨key, nonce, hform, -, -⟩ := h.commitment_form
  refine ⟨⟨4, row.did, row.handle, row.identityKey, row.identityKeyAlgorithm,
    some (commitmentOf row), ss, custody, records, row.prevAnchorCid, reason, t, row.sig,
    row.deviceSig⟩, ?_, ?_⟩
  · have hversion : o.fetch "schema_version" = .int 4 := by
      rw [Json.fetch, h.version]
      rfl
    have htype : (o.fetch "type").eqv (.str anchorType) = true := Json.eqv_str_right.2 h.type
    have hraw : asMapOrNull (commitmentOf row) = some (some (commitmentOf row)) := by
      rw [hform]
      rfl
    have halgorithm : asStringOrNull (.str row.identityKeyAlgorithm)
        = some (some row.identityKeyAlgorithm) := rfl
    simp only [IdentityAnchor.fromMap, if_pos htype, hversion, h.devices, h.did, h.handle,
      h.identityKey, h.algorithm, haliases, h.custody, h.prev, h.reason, hcreated, h.sig,
      h.deviceSig, h.commitment, asString, asIntOrNull, asListOrEmpty, halgorithm, hss, hcustody,
      hreason, hparse, hrecords, asStringOrNull_textOrNull, hraw, Option.bind_eq_bind,
        Option.bind_some,
      Option.getD_some, if_pos (le_refl (4 : ℤ)), hnormal, Option.map_some, Option.pure_def]
  · refine ⟨rfl, rfl, rfl, rfl, rfl, hcustodyValue, hdevices, rfl, hreasonValue, rfl, rfl, ?_⟩
    have hbody : canonicalBody o = row.canonicalBody := h.body
    rw [← hbody, canonicalBody, bodyObject_of_serves h, haliases, hcreated]
    simp [IdentityAnchor.canonicalBodyJson, IdentityAnchor.toCanonicalBody, hnormal, hstr,
      hcustodyValue, hreasonValue, hwrite, toCanonicalBody_devices hdevices]

end Serves

end Client

end Ansible
