import Ansible.Lib.KeyOrder
import Ansible.Relay.BoardCreation

/-!
# The content of an accepted intent

An intent that is sent again is answered with its board when the hash of its content is the one
that was recorded.  The hash covers a form of the content in which an object is the list of its
members, so it tells an object from such a list no more.

## Main definitions

* `BoardCreation.intentPayload` — the content of an intent.
* `BoardCreation.HashExact`, `ReplaysExact` — the content is told from every other, by its hash
  and by the answers.
* `BoardCreation.PlainContent` — no member of the board has an object or a list that could be one
  of members.

## Main results

* `BoardCreation.exact_iff` — **the content is told from every other exactly when it is plain.**
-/

namespace Ansible

/-- No other message has the hash of this one. -/
def Platform.Collisionless (P : Platform) (m : Binary) : Prop :=
  ∀ m', P.sha256 m' = P.sha256 m → m' = m

/-- A hash that singles one message out. -/
def Platform.marking (m : Binary) : Platform where
  sha256 b := List.replicate 32 (if b = m then 1 else 0)
  sha256_length _ := List.length_replicate
  ed25519Verify := Platform.toy.ed25519Verify
  p256Verify := Platform.toy.p256Verify

theorem Platform.collisionless_marking (m : Binary) : (Platform.marking m).Collisionless m := by
  intro m' h
  by_contra hne
  have h := List.replicate_right_injective (by decide) h
  rw [if_neg hne, if_pos rfl] at h
  cases h

namespace BoardGovernance

open Json (listed sortKeys sortMembers byKey)

/-! ### The hashed form -/

mutual

/-- **The form that is hashed lists the members of every object in the order of their keys.** -/
theorem canonicalPayload_eq : ∀ v : Json, canonicalPayload v = v.sortKeys.listed
  | .null | .bool _ | .int _ | .float _ | .str _ => rfl
  | .arr l => congrArg Json.arr (canonicalElems_eq l)
  | .obj f => by
    rw [canonicalPayload, canonicalFields_eq, sortKeys, listed, Json.listedMembers_eq_map,
      List.map_insertionSort byKey byKey (fun kv => (kv.1, listed kv.2)) _
        fun _ _ _ _ => Iff.rfl]
    rfl

theorem canonicalElems_eq : ∀ l : List Json,
    canonicalElems l = Json.listedElems (Json.sortElems l)
  | [] => rfl
  | v :: l => congrArg₂ List.cons (canonicalPayload_eq v) (canonicalElems_eq l)

theorem canonicalFields_eq : ∀ f : List (String × Json),
    canonicalFields f = (sortMembers f).map fun kv => (kv.1, listed kv.2)
  | [] => rfl
  | (k, v) :: f => congrArg₂ List.cons (congrArg (Prod.mk k) (canonicalPayload_eq v))
      (canonicalFields_eq f)

end

theorem canonicalPayload_eq_of_hashOf {P : Platform} {v w : Json} (hv : v.Determined)
    (hw : w.Determined) (hsha : P.Collisionless (canonicalPayload v).encode.utf8)
    (h : hashOf P w = hashOf P v) : canonicalPayload w = canonicalPayload v := by
  have hhash := congrArg (fun t : Text => decode16 t.utf8) h
  simp only [hashOf, decode16_encode16] at hhash
  have htext := Text.utf8_injective (hsha _ (Option.some.inj hhash))
  rw [canonicalPayload_eq, canonicalPayload_eq] at htext ⊢
  exact Json.eq_of_encode_eq hw.sortKeys.listed hv.sortKeys.listed htext

end BoardGovernance

namespace BoardCreation

open BoardGovernance (canonicalPayload canonicalPayload_eq canonicalFields canonicalFields_eq
  hashOf)

/-! ### The content of an intent -/

/-- What the recorded hash is of. -/
def intentPayload (i : CreateBoardIntent) : Json :=
  .obj [("action", .str "create_board"), ("intent_id", .str i.intentId),
    ("author_did", .str i.authorDid), ("board", submittedBoardPayload i)]

/-- The two intents say the same. -/
def SameContent (i j : CreateBoardIntent) : Prop :=
  (intentPayload i).Reordered (intentPayload j)

/-- The members of the board that an intent can give, besides its title. -/
def boardKeys : List String :=
  ["description", "language", "tags", "permissions", "posting_policy", "moderation_policy",
    "access_policy", "content_visibility", "federation_policy"]

/-- The member that the intent gives. -/
def given (i : CreateBoardIntent) (key : String) : Option Json :=
  match i.board.fetch key with
  | .null => none
  | v => some v

/-- Every member that the intent gives is plain. -/
def PlainContent (i : CreateBoardIntent) : Prop :=
  ∀ key ∈ boardKeys, ∀ v, given i key = some v → v.Plain

/-- An intent with the hash of this one says the same. -/
def HashExact (P : Platform) (i : CreateBoardIntent) : Prop :=
  ∀ j : CreateBoardIntent, j.board.Determined → payloadHash P j = payloadHash P i →
    SameContent j i

/-- An intent that is answered where the hash of this one is recorded for its id says the
same. -/
def ReplaysExact (P : Platform) (i : CreateBoardIntent) : Prop :=
  ∀ (C : HostConfig) (now : Time) (boardId : ℕ) (h : ForumHost) (accepted : AcceptedIntent)
    (j : CreateBoardIntent) (b : ForumHostBoard) (h' : ForumHost),
    h.acceptedIntents.find? (·.intentId == j.intentId) = some accepted →
    accepted.payloadHash = payloadHash P i → j.board.Determined →
    createBoard P C now boardId j h = .ok (b, h') → SameContent j i

/-! ### The submitted members -/

def submittedFields (i : CreateBoardIntent) : List (String × Json) :=
  ("title", .str i.title) :: boardKeys.filterMap fun key => (given i key).map (key, ·)

theorem submittedBoardPayload_eq (i : CreateBoardIntent) :
    submittedBoardPayload i = .obj (submittedFields i) := by
  rw [submittedBoardPayload, submittedFields]
  congr 2
  refine List.filterMap_congr fun key _ => ?_
  rw [given, Json.fetch]
  cases hkey : i.board.get? key with
  | none => rfl
  | some v => cases v <;> rfl

variable {i j : CreateBoardIntent} {key : String} {v w : Json} {P : Platform}

theorem given_ne_null (h : given i key = some v) : v ≠ .null := by
  rintro rfl
  unfold given at h
  split at h
  · cases h
  · next hne => exact hne (Option.some.inj h)

theorem given_determined (hi : i.board.Determined) (h : given i key = some v) : v.Determined := by
  have hfetch : i.board.fetch key = v := by
    unfold given at h
    split at h
    · cases h
    · exact Option.some.inj h
  rw [← hfetch, Json.fetch]
  cases hkey : i.board.get? key with
  | none => trivial
  | some w =>
    cases hboard : i.board with
    | obj f =>
      rw [hboard, Json.get?_obj] at hkey
      obtain ⟨l, m, rfl, -⟩ := List.lookup_eq_some_iff.1 hkey
      rw [hboard, Json.Determined, Json.determinedFields_iff] at hi
      exact hi.2 (key, w) (by simp)
    | _ => rw [hboard] at hkey; cases hkey

theorem nodup_submittedFields (i : CreateBoardIntent) :
    ((submittedFields i).map Prod.fst).Nodup := by
  have hsub : (boardKeys.filterMap fun key => (given i key).map (key, ·)).map Prod.fst =
      boardKeys.filter fun key => (given i key).isSome := by
    induction boardKeys with
    | nil => rfl
    | cons key keys ih =>
      rw [List.filterMap_cons, List.filter_cons]
      cases hkey : given i key with
      | none => simpa using ih
      | some v => simpa using ih
  have hkeys : ("title" :: boardKeys).Nodup := by decide
  rw [List.nodup_cons] at hkeys
  rw [submittedFields, List.map_cons, hsub, List.nodup_cons]
  exact ⟨fun hmem => hkeys.1 (List.mem_filter.1 hmem).1, hkeys.2.filter _⟩

theorem lookup_submittedFields (i : CreateBoardIntent) (key : String) (hkey : key ∈ boardKeys) :
    (submittedFields i).lookup key = given i key := by
  have hne : (key == "title") = false := by
    rw [beq_eq_false_iff_ne]
    rintro rfl
    exact absurd hkey (by decide)
  rw [submittedFields, List.lookup_cons, hne]
  exact (Json.lookup_filterMap (given i) boardKeys key).trans (if_pos hkey)

theorem submittedBoardPayload_determined (hi : i.board.Determined) :
    (submittedBoardPayload i).Determined := by
  rw [submittedBoardPayload_eq, Json.Determined, Json.determinedFields_iff]
  refine ⟨nodup_submittedFields i, fun kv hkv => ?_⟩
  rcases List.mem_cons.1 hkv with rfl | hkv
  · trivial
  · obtain ⟨key, -, hmap⟩ := List.mem_filterMap.1 hkv
    obtain ⟨v, hv, rfl⟩ := Option.map_eq_some_iff.1 hmap
    exact given_determined hi hv

theorem intentPayload_determined (hi : i.board.Determined) : (intentPayload i).Determined :=
  ⟨by simp, trivial, trivial, trivial, submittedBoardPayload_determined hi, trivial⟩

theorem SameContent.spec (h : SameContent i j) (hi : i.board.Determined) :
    i.intentId = j.intentId ∧ i.authorDid = j.authorDid ∧ i.title = j.title ∧
      ∀ key ∈ boardKeys, (given i key).map Json.sortKeys = (given j key).map Json.sortKeys := by
  have hlookup := h.lookup (intentPayload_determined hi)
  have hboard : (submittedBoardPayload i).sortKeys = (submittedBoardPayload j).sortKeys :=
    Option.some.inj (hlookup "board")
  have hfields := submittedBoardPayload_determined hi
  have hreordered := (Json.reordered_iff hfields).2 hboard
  rw [submittedBoardPayload_eq] at hreordered hfields
  rw [submittedBoardPayload_eq] at hreordered
  refine ⟨Json.str.inj (Option.some.inj (hlookup "intent_id")),
    Json.str.inj (Option.some.inj (hlookup "author_did")), ?_, fun key hkey => ?_⟩
  · have htitle := hreordered.lookup hfields "title"
    rw [submittedFields, submittedFields, List.lookup_cons_self, List.lookup_cons_self] at htitle
    exact Json.str.inj (Option.some.inj htitle)
  · have hmember := hreordered.lookup hfields key
    rwa [lookup_submittedFields i key hkey, lookup_submittedFields j key hkey] at hmember

theorem SameContent.payloadHash_eq (h : SameContent i j) (hi : i.board.Determined) (P : Platform) :
    payloadHash P i = payloadHash P j := by
  change hashOf P (intentPayload i) = hashOf P (intentPayload j)
  rw [hashOf, hashOf, canonicalPayload_eq, canonicalPayload_eq,
    h.sortKeys_eq (intentPayload_determined hi)]

/-! ### Plain contents -/

theorem submittedBoardPayload_eq_of_plain (hj : j.board.Determined) (hplain : PlainContent i)
    (h : canonicalPayload (submittedBoardPayload j) = canonicalPayload (submittedBoardPayload i)) :
    submittedBoardPayload j = submittedBoardPayload i := by
  rw [canonicalPayload_eq, canonicalPayload_eq, submittedBoardPayload_eq,
    submittedBoardPayload_eq] at h
  have hlookup := Json.lookup_of_listed_eq (nodup_submittedFields j) (nodup_submittedFields i) h
  have htitle : j.title = i.title := by
    have h := hlookup "title"
    rw [submittedFields, submittedFields, List.lookup_cons_self, List.lookup_cons_self] at h
    exact Json.str.inj (Option.some.inj h)
  have hgiven : ∀ key ∈ boardKeys, given j key = given i key := by
    intro key hkey
    have h := hlookup key
    rw [lookup_submittedFields j key hkey, lookup_submittedFields i key hkey] at h
    cases hi : given i key with
    | none => simpa [hi] using h
    | some v =>
      rw [hi, Option.map_some] at h
      obtain ⟨w, hw, hlisted⟩ := Option.map_eq_some_iff.1 h
      have hv := hplain key hkey v hi
      rw [hw, hv.eq_of_listed (given_determined hj hw)
        (hlisted.trans hv.flat.listed_sortKeys)]
  rw [submittedBoardPayload_eq, submittedBoardPayload_eq, submittedFields, submittedFields,
    htitle]
  congr 2
  exact List.filterMap_congr fun key hkey => by rw [hgiven key hkey]

theorem ne_null_of_listed (hv : v ≠ .null) (h : w.sortKeys.listed = v.sortKeys.listed) :
    w ≠ .null := by
  rintro rfl
  cases v with
  | null => exact hv rfl
  | _ => cases h

theorem hashExact_of_plain (hi : i.board.Determined)
    (hsha : P.Collisionless (canonicalPayload (intentPayload i)).encode.utf8)
    (hplain : PlainContent i) : HashExact P i := by
  intro j hj hhash
  have hform := BoardGovernance.canonicalPayload_eq_of_hashOf (intentPayload_determined hi)
    (intentPayload_determined hj) hsha hhash
  rw [canonicalPayload_eq, canonicalPayload_eq] at hform
  have hlookup := Json.lookup_of_listed_eq (intentPayload_determined hj).1
    (intentPayload_determined hi).1 hform
  have hid : j.intentId = i.intentId :=
    Json.str.inj (Option.some.inj (hlookup "intent_id"))
  have hauthor : j.authorDid = i.authorDid :=
    Json.str.inj (Option.some.inj (hlookup "author_did"))
  have hboard : canonicalPayload (submittedBoardPayload j) =
      canonicalPayload (submittedBoardPayload i) := by
    rw [canonicalPayload_eq, canonicalPayload_eq]
    exact Option.some.inj (hlookup "board")
  rw [SameContent, intentPayload, intentPayload, hid, hauthor,
    submittedBoardPayload_eq_of_plain hj hplain hboard]
  exact .refl _

/-! ### Other contents -/

/-- The intent with another value of a member. -/
def withMember (i : CreateBoardIntent) (key : String) (v : Json) : CreateBoardIntent :=
  { i with board := i.board.merge [(key, v)] }

theorem withMember_determined (hi : i.board.Determined) (key : String) (hv : v.Determined) :
    (withMember i key v).board.Determined := by
  rw [withMember]
  cases hboard : i.board with
  | obj f =>
    rw [hboard, Json.Determined, Json.determinedFields_iff] at hi
    rw [Json.merge, Json.Determined, Json.determinedFields_iff, List.map_append,
      List.nodup_append]
    refine ⟨⟨hi.1.sublist (List.filter_sublist.map _), by simp, ?_⟩, ?_⟩
    · rintro a ha b hb rfl
      obtain ⟨kv, hkv, rfl⟩ := List.mem_map.1 ha
      have hnot := (List.mem_filter.1 hkv).2
      simp only [List.map_cons, List.map_nil, List.mem_singleton] at hb
      simp [hb] at hnot
    · intro kv hkv
      rcases List.mem_append.1 hkv with hmem | hmem
      · exact hi.2 kv (List.mem_filter.1 hmem).1
      · obtain rfl := List.mem_singleton.1 hmem
        exact hv
  | _ => exact ⟨by simp, hv, trivial⟩

theorem given_withMember (hv : v ≠ .null) (hi : given i key = some w) (key' : String) :
    given (withMember i key v) key' = if key' = key then some v else given i key' := by
  obtain ⟨f, hf⟩ : ∃ f, i.board = .obj f := by
    cases hboard : i.board with
    | obj f => exact ⟨f, rfl⟩
    | _ => simp [given, Json.fetch, Json.get?, hboard] at hi
  rw [given, given, withMember, hf]
  by_cases hkey : key' = key
  · subst hkey
    rw [if_pos rfl, Json.fetch_merge_new (by simp), List.lookup_cons_self, Option.getD_some]
    cases v <;> simp_all
  · rw [if_neg hkey, Json.fetch_merge (by simpa using hkey)]

theorem payloadHash_withMember (hv : given i key = some v)
    (hw : w.sortKeys.listed = v.sortKeys.listed) :
    payloadHash P (withMember i key w) = payloadHash P i := by
  have hnull := ne_null_of_listed (given_ne_null hv) hw
  have hfields : canonicalFields (submittedFields (withMember i key w)) =
      canonicalFields (submittedFields i) := by
    rw [canonicalFields_eq, canonicalFields_eq, Json.sortMembers_eq_map, Json.sortMembers_eq_map,
      submittedFields, submittedFields, List.map_map, List.map_map, List.map_cons, List.map_cons,
      List.map_filterMap, List.map_filterMap]
    refine congrArg₂ List.cons rfl (List.filterMap_congr fun key' _ => ?_)
    rw [given_withMember hnull hv]
    split
    · next hkey =>
      rw [hkey, hv]
      simp [hw]
    · rfl
  have hboard : canonicalPayload (submittedBoardPayload (withMember i key w)) =
      canonicalPayload (submittedBoardPayload i) := by
    rw [submittedBoardPayload_eq, submittedBoardPayload_eq, canonicalPayload, canonicalPayload,
      hfields]
  rw [payloadHash, payloadHash, hashOf, hashOf, canonicalPayload, canonicalPayload,
    canonicalFields, canonicalFields, canonicalFields, canonicalFields, canonicalFields,
    canonicalFields, canonicalFields, canonicalFields, hboard]
  rfl

theorem not_sameContent_withMember (hi : i.board.Determined) (hkey : key ∈ boardKeys)
    (hv : given i key = some v) (hw : w.Determined) (hnull : w ≠ .null) (hne : ¬ w.Reordered v) :
    ¬ SameContent (withMember i key w) i := by
  intro hsame
  have hdet := withMember_determined hi key hw
  have hmember := (hsame.spec hdet).2.2.2 key hkey
  rw [hv, given_withMember hnull hv, if_pos rfl] at hmember
  exact hne ((Json.reordered_iff hw).2 (Option.some.inj hmember))

/-- A content that is not plain shares its hash with another one under the same id. -/
theorem exists_other_of_not_plain (hi : i.board.Determined) (hkey : key ∈ boardKeys)
    (hv : given i key = some v) (hplain : ¬ v.Plain) :
    ∃ w, (withMember i key w).board.Determined ∧
      payloadHash P (withMember i key w) = payloadHash P i ∧
      ¬ SameContent (withMember i key w) i := by
  obtain ⟨w, hw, hlisted, hne⟩ := Json.exists_of_not_plain (given_determined hi hv) hplain
  have hnull := ne_null_of_listed (given_ne_null hv) hlisted
  exact ⟨w, withMember_determined hi key hw, payloadHash_withMember hv hlisted,
    not_sameContent_withMember hi hkey hv hw hnull hne⟩

theorem plain_of_hashExact (hi : i.board.Determined) (h : HashExact P i) : PlainContent i := by
  intro key hkey v hv
  by_contra hplain
  obtain ⟨w, hw, hhash, hne⟩ := exists_other_of_not_plain hi hkey hv hplain
  exact hne (h _ hw hhash)

/-! ### Replays -/

/-- An intent whose id is recorded is answered by its hash alone. -/
theorem payloadHash_of_replay {C : HostConfig} {now : Time} {boardId : ℕ} {h h' : ForumHost}
    {accepted : AcceptedIntent} {b : ForumHostBoard}
    (hfind : h.acceptedIntents.find? (·.intentId == i.intentId) = some accepted)
    (hok : createBoard P C now boardId i h = .ok (b, h')) :
    accepted.payloadHash = payloadHash P i ∧ h.boards.get accepted.resultId = some b ∧ h' = h := by
  obtain ⟨_, -, hrest⟩ := bind_eq_ok.1 hok
  rw [maxSlugAttempts, createFrom, createWithSlug, hfind] at hrest
  dsimp only at hrest
  rw [resolveAcceptedIntent] at hrest
  split at hrest
  · next hhash =>
    split at hrest
    · next c hget =>
      cases hrest
      exact ⟨hhash, hget, rfl⟩
    · cases hrest
  · cases hrest

/-- **The content of an intent is told from every other, by its hash and by the answers to
intents of one id, exactly when its members are plain.** -/
theorem exact_iff {P : Platform} {i : CreateBoardIntent} (hi : i.board.Determined)
    (hsha : P.Collisionless (canonicalPayload (intentPayload i)).encode.utf8) :
    HashExact P i ∧ ReplaysExact P i ↔ PlainContent i := by
  refine ⟨fun h => plain_of_hashExact hi h.1, fun hplain => ?_⟩
  have hexact := hashExact_of_plain hi hsha hplain
  refine ⟨hexact, fun C now boardId h accepted j b h' hfind hhash hj hok => ?_⟩
  exact hexact j hj ((payloadHash_of_replay hfind hok).1.symm.trans hhash)

/-! ### A board of Alice -/

/-- A board with a description. -/
def toyDescribed : CreateBoardIntent :=
  ⟨"i-1", "did:plc:alice", "T", .obj [("description", .str "D")]⟩

theorem plainContent_toyDescribed : PlainContent toyDescribed := by
  intro key hkey v hv
  unfold given at hv
  split at hv
  · cases hv
  cases hv
  simp only [boardKeys, List.mem_cons, List.not_mem_nil, or_false] at hkey
  rcases hkey with rfl | rfl | rfl | rfl | rfl | rfl | rfl | rfl | rfl <;> trivial

theorem toyDescribed_determined : toyDescribed.board.Determined :=
  ⟨by decide, trivial, trivial⟩

theorem exact_iff_toy :
    let P := Platform.marking (canonicalPayload (intentPayload toyDescribed)).encode.utf8
    HashExact P toyDescribed ∧ ReplaysExact P toyDescribed :=
  (exact_iff toyDescribed_determined (Platform.collisionless_marking _)).2 plainContent_toyDescribed

def toyPermissions : CreateBoardIntent :=
  ⟨"i-1", "did:plc:alice", "T", .obj [("permissions", .obj [("read", .bool true)])]⟩

/-- The permissions as a list of pairs. -/
def toyPairs : CreateBoardIntent :=
  ⟨"i-1", "did:plc:alice", "T", .obj [("permissions", .arr [.arr [.str "read", .bool true]])]⟩

theorem toyPairs_determined : toyPairs.board.Determined :=
  ⟨by decide, ⟨⟨trivial, trivial, trivial⟩, trivial⟩, trivial⟩

theorem payloadHash_toyPairs (P : Platform) :
    payloadHash P toyPairs = payloadHash P toyPermissions := by
  have hgiven : given toyPermissions "permissions" = some (.obj [("read", .bool true)]) := rfl
  have hpairs : toyPairs = withMember toyPermissions "permissions"
      (.arr [.arr [.str "read", .bool true]]) := rfl
  rw [hpairs]
  exact payloadHash_withMember hgiven rfl

theorem not_sameContent_toyPairs : ¬ SameContent toyPairs toyPermissions := by
  intro hsame
  have hmember := (hsame.spec toyPairs_determined).2.2.2 "permissions" (by decide)
  cases hmember

/-- The two have one hash, whatever it is, and the second is answered with the board of the
first. -/
theorem pairs_answered :
    (∀ P, payloadHash P toyPairs = payloadHash P toyPermissions) ∧
    ¬ SameContent toyPairs toyPermissions ∧
    ((createBoard .toy {} 0 1 toyPermissions .empty).toOption.bind fun created =>
      (createBoard .toy {} 1 2 toyPairs created.2).toOption.map fun answered =>
        (created.1.boardId, answered.1.boardId, answered.2.boards.rows.length))
      = some (1, 1, 1) :=
  ⟨payloadHash_toyPairs, not_sameContent_toyPairs, by decide +kernel⟩

end BoardCreation

end Ansible
