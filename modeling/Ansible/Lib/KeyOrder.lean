import Ansible.Lib.Json
import Mathlib.Data.List.Sort

/-!
# JSON values and the order of keys

Two documents say the same when only the order of the members of their objects differs.  An
encoder that sorts the members gives one text to all of them.  One that writes an object as the
list of its members gives that text to lists as well.

## Main definitions

* `Json.Reordered` — equality up to the order of members.

## Main results

* `Json.reordered_iff` — sorted keys decide the equality.
* `Json.Plain.eq_of_listed`, `Json.exists_of_not_plain` — **the sorted lists of members determine
  the plain values and no others.**
-/

namespace Ansible

namespace Json

/-! ### The order of members -/

/-- The order of two members: that of the bytes of their keys. -/
abbrev byKey {α : Type} (a b : String × α) : Prop := bytes a.1 ≤ bytes b.1

section Members

variable {α : Type} {f g : List (String × α)}

instance : Std.Total (@byKey α) := ⟨fun a b => List.le_total (bytes a.1) (bytes b.1)⟩

instance : IsTrans (String × α) byKey := ⟨fun _ _ _ hab hbc => List.le_trans hab hbc⟩

theorem eq_of_sorted (hf : f.Pairwise byKey) (hg : g.Pairwise byKey) (h : f.Perm g)
    (hkeys : (f.map Prod.fst).Nodup) : f = g := by
  refine h.eq_of_pairwise (fun a b ha hb hab hba => ?_) hf hg
  have hkey : a.1 = b.1 := bytes_injective (List.le_antisymm hab hba)
  exact List.inj_on_of_nodup_map hkeys ha (h.mem_iff.2 hb) hkey

theorem insertionSort_eq_of_perm (h : f.Perm g) (hkeys : (f.map Prod.fst).Nodup) :
    f.insertionSort byKey = g.insertionSort byKey := by
  have hf := List.perm_insertionSort byKey f
  refine eq_of_sorted (List.pairwise_insertionSort byKey f) (List.pairwise_insertionSort byKey g)
    (hf.trans (h.trans (List.perm_insertionSort byKey g).symm)) ?_
  exact (hf.map Prod.fst).nodup_iff.2 hkeys

theorem lookup_eq_of_perm (h : f.Perm g) (hkeys : (f.map Prod.fst).Nodup) (k : String) :
    f.lookup k = g.lookup k := by
  induction h with
  | nil => rfl
  | cons x _ ih =>
    rw [List.map_cons, List.nodup_cons] at hkeys
    rw [List.lookup_cons, List.lookup_cons, ih hkeys.2]
  | swap x y l =>
    have hne : y.1 ≠ x.1 := by
      intro he
      simp [he] at hkeys
    rw [List.lookup_cons, List.lookup_cons, List.lookup_cons, List.lookup_cons]
    by_cases hx : k = x.1
    · have hy : (k == y.1) = false := by
        rw [beq_eq_false_iff_ne, hx]
        exact hne.symm
      rw [hy]
    · rw [beq_eq_false_iff_ne.2 hx]
  | trans h₁ _ ih₁ ih₂ => exact (ih₁ hkeys).trans (ih₂ ((h₁.map Prod.fst).nodup_iff.1 hkeys))

theorem lookup_mapValues {β : Type} (F : α → β) (f : List (String × α)) (k : String) :
    (f.map fun kv => (kv.1, F kv.2)).lookup k = (f.lookup k).map F := by
  induction f with
  | nil => rfl
  | cons kv f ih =>
    rw [List.map_cons, List.lookup_cons, List.lookup_cons, ih]
    cases k == kv.1 <;> rfl

theorem lookup_filterMap (g : String → Option α) (keys : List String) (k : String) :
    (keys.filterMap fun key => (g key).map (key, ·)).lookup k =
      if k ∈ keys then g k else none := by
  induction keys with
  | nil => rfl
  | cons key keys ih =>
    rw [List.filterMap_cons]
    by_cases hk : k = key
    · subst hk
      rw [if_pos List.mem_cons_self]
      cases hg : g k with
      | none => simpa [hg] using ih
      | some v => simp
    · have hmem : k ∈ key :: keys ↔ k ∈ keys := by simp [hk]
      simp only [hmem]
      cases hg : g key with
      | none => exact ih
      | some v =>
        rw [Option.map_some]
        dsimp only
        rw [List.lookup_cons, beq_eq_false_iff_ne.2 hk, ih]

end Members

/-! ### Equality up to the order of members -/

/-- The least equivalence that permutes the members of objects, at any depth. -/
inductive Reordered : Json → Json → Prop
  | refl (v : Json) : Reordered v v
  | symm {v w : Json} : Reordered v w → Reordered w v
  | trans {u v w : Json} : Reordered u v → Reordered v w → Reordered u w
  | perm {f g : List (String × Json)} : f.Perm g → Reordered (.obj f) (.obj g)
  | elem {v w : Json} (l m : List Json) :
      Reordered v w → Reordered (.arr (l ++ v :: m)) (.arr (l ++ w :: m))
  | member {v w : Json} (k : String) (f g : List (String × Json)) :
      Reordered v w → Reordered (.obj (f ++ (k, v) :: g)) (.obj (f ++ (k, w) :: g))

theorem Reordered.elems {l m : List Json} (h : List.Forall₂ Reordered l m) :
    Reordered (.arr l) (.arr m) := by
  have hpre : ∀ p : List Json, Reordered (.arr (p ++ l)) (.arr (p ++ m)) := by
    induction h with
    | nil => exact fun p => .refl _
    | @cons v w l m hv _ ih =>
      intro p
      refine (Reordered.elem p l hv).trans ?_
      have hrest := ih (p ++ [w])
      rwa [List.append_assoc, List.append_assoc] at hrest
  exact hpre []

theorem Reordered.members {f g : List (String × Json)}
    (h : List.Forall₂ (fun a b => a.1 = b.1 ∧ Reordered a.2 b.2) f g) :
    Reordered (.obj f) (.obj g) := by
  have hpre : ∀ p : List (String × Json), Reordered (.obj (p ++ f)) (.obj (p ++ g)) := by
    induction h with
    | nil => exact fun p => .refl _
    | @cons a b f g hab _ ih =>
      intro p
      obtain ⟨k, v⟩ := a
      obtain ⟨k', w⟩ := b
      obtain ⟨rfl, hv⟩ := hab
      refine (Reordered.member k p f hv).trans ?_
      have hrest := ih (p ++ [(k, w)])
      rwa [List.append_assoc, List.append_assoc] at hrest
  exact hpre []

theorem Reordered.determined_iff {v w : Json} (h : Reordered v w) :
    v.Determined ↔ w.Determined := by
  induction h with
  | refl => exact Iff.rfl
  | symm _ ih => exact ih.symm
  | trans _ _ ih₁ ih₂ => exact ih₁.trans ih₂
  | perm h =>
    rw [Determined, Determined, (h.map Prod.fst).nodup_iff, determinedFields_iff,
      determinedFields_iff]
    simp only [h.mem_iff]
  | elem l m _ ih =>
    rw [Determined, Determined, determinedElems_iff, determinedElems_iff]
    simp only [List.forall_mem_append, List.forall_mem_cons, ih]
  | member k f g _ ih =>
    rw [Determined, Determined, determinedFields_iff, determinedFields_iff]
    simp only [List.forall_mem_append, List.forall_mem_cons, List.map_append, List.map_cons, ih]

/-! ### Sorted keys -/

mutual

/-- The members of every object in the order of their keys. -/
def sortKeys : Json → Json
  | .obj f => .obj ((sortMembers f).insertionSort byKey)
  | .arr l => .arr (sortElems l)
  | j => j

def sortElems : List Json → List Json
  | [] => []
  | v :: l => sortKeys v :: sortElems l

def sortMembers : List (String × Json) → List (String × Json)
  | [] => []
  | (k, v) :: l => (k, sortKeys v) :: sortMembers l

end

theorem sortElems_eq_map (l : List Json) : sortElems l = l.map sortKeys := by
  induction l with
  | nil => rfl
  | cons v l ih => rw [sortElems, ih, List.map_cons]

variable (f : List (String × Json)) (v : Json)

theorem sortMembers_eq_map : sortMembers f = f.map fun kv => (kv.1, sortKeys kv.2) := by
  induction f with
  | nil => rfl
  | cons kv f ih =>
    obtain ⟨k, v⟩ := kv
    rw [sortMembers, ih, List.map_cons]

theorem keys_sortMembers : (sortMembers f).map Prod.fst = f.map Prod.fst := by
  rw [sortMembers_eq_map, List.map_map]
  rfl

theorem lookup_sortMembers (k : String) : (sortMembers f).lookup k = (f.lookup k).map sortKeys := by
  rw [sortMembers_eq_map, lookup_mapValues]

theorem lookup_sortKeys {f : List (String × Json)} (hf : (f.map Prod.fst).Nodup) (k : String) :
    ((sortMembers f).insertionSort byKey).lookup k = (f.lookup k).map sortKeys := by
  rw [← lookup_eq_of_perm (List.perm_insertionSort byKey (sortMembers f)).symm
    ((keys_sortMembers f).symm ▸ hf), lookup_sortMembers]

theorem fetch_sortKeys {v : Json} (hv : v.Determined) (k : String) :
    v.sortKeys.fetch k = (v.fetch k).sortKeys := by
  cases v with
  | obj f =>
    rw [sortKeys, fetch, fetch, get?_obj, get?_obj, lookup_sortKeys hv.1]
    cases f.lookup k <;> rfl
  | _ => rfl

/-! What has no members is as it was. -/

theorem isNull_sortKeys : v.sortKeys.isNull = v.isNull := by cases v <;> rfl

theorem isObj_sortKeys : v.sortKeys.isObj = v.isObj := by cases v <;> rfl

theorem str?_sortKeys : v.sortKeys.str? = v.str? := by cases v <;> rfl

theorem eqv_str_sortKeys (s : String) : v.sortKeys.eqv (.str s) = v.eqv (.str s) := by
  cases v <;> rfl

theorem eqv_bool_sortKeys (b : Bool) : v.sortKeys.eqv (.bool b) = v.eqv (.bool b) := by
  cases v <;> rfl

theorem orElse_null_sortKeys : v.sortKeys.orElse .null = (v.orElse .null).sortKeys := by
  cases v with
  | bool b => cases b <;> rfl
  | _ => rfl

mutual

theorem reordered_sortKeys : ∀ v : Json, Reordered v v.sortKeys
  | .null | .bool _ | .int _ | .float _ | .str _ => .refl _
  | .arr l => .elems (reordered_sortElems l)
  | .obj f => (Reordered.members (reordered_sortMembers f)).trans
      (.perm (List.perm_insertionSort byKey _).symm)

theorem reordered_sortElems : ∀ l : List Json, List.Forall₂ Reordered l (sortElems l)
  | [] => .nil
  | v :: l => .cons (reordered_sortKeys v) (reordered_sortElems l)

theorem reordered_sortMembers : ∀ f : List (String × Json),
    List.Forall₂ (fun a b => a.1 = b.1 ∧ Reordered a.2 b.2) f (sortMembers f)
  | [] => .nil
  | (_, v) :: f => .cons ⟨rfl, reordered_sortKeys v⟩ (reordered_sortMembers f)

end

theorem Determined.sortKeys {v : Json} (h : v.Determined) : v.sortKeys.Determined :=
  (reordered_sortKeys v).determined_iff.1 h

theorem Reordered.sortKeys_eq {v w : Json} (h : Reordered v w) (hv : v.Determined) :
    v.sortKeys = w.sortKeys := by
  induction h with
  | refl => rfl
  | symm h ih => exact (ih (h.determined_iff.2 hv)).symm
  | trans h₁ _ ih₁ ih₂ => exact (ih₁ hv).trans (ih₂ (h₁.determined_iff.1 hv))
  | perm h =>
    rw [Json.sortKeys, Json.sortKeys, sortMembers_eq_map, sortMembers_eq_map,
      insertionSort_eq_of_perm (h.map _)]
    rw [List.map_map]
    exact hv.1
  | elem l m _ ih =>
    rw [Determined, determinedElems_iff] at hv
    simp only [Json.sortKeys, sortElems_eq_map, List.map_append, List.map_cons,
      ih (hv _ (by simp))]
  | member k f g _ ih =>
    rw [Determined, determinedFields_iff] at hv
    simp only [Json.sortKeys, sortMembers_eq_map, List.map_append, List.map_cons,
      ih (hv.2 (k, _) (by simp))]

/-- **Two values are equal up to the order of members when they are once that is sorted.** -/
theorem reordered_iff {v w : Json} (hv : v.Determined) :
    Reordered v w ↔ v.sortKeys = w.sortKeys := by
  refine ⟨fun h => h.sortKeys_eq hv, fun h => (reordered_sortKeys v).trans ?_⟩
  rw [h]
  exact (reordered_sortKeys w).symm

theorem Reordered.lookup {f g : List (String × Json)} (h : Reordered (.obj f) (.obj g))
    (hf : (Json.obj f).Determined) (k : String) :
    (f.lookup k).map Json.sortKeys = (g.lookup k).map Json.sortKeys := by
  have hsorted := h.sortKeys_eq hf
  rw [Json.sortKeys, Json.sortKeys, Json.obj.injEq] at hsorted
  rw [← lookup_sortKeys hf.1, hsorted, lookup_sortKeys (h.determined_iff.1 hf).1]

/-! ### Objects as lists -/

def pairOf (kv : String × Json) : Json := .arr [.str kv.1, kv.2]

theorem pairOf_injective : Function.Injective pairOf := by
  rintro ⟨k, v⟩ ⟨k', w⟩ h
  simp only [pairOf, arr.injEq, List.cons.injEq, str.injEq, and_true] at h
  exact Prod.ext h.1 h.2

mutual

/-- Every object is the list of its members. -/
def listed : Json → Json
  | .obj f => .arr (listedMembers f)
  | .arr l => .arr (listedElems l)
  | j => j

def listedElems : List Json → List Json
  | [] => []
  | v :: l => listed v :: listedElems l

def listedMembers : List (String × Json) → List Json
  | [] => []
  | (k, v) :: f => pairOf (k, listed v) :: listedMembers f

end

mutual

/-- No object occurs in the value. -/
def Flat : Json → Prop
  | .obj _ => False
  | .arr l => FlatElems l
  | _ => True

def FlatElems : List Json → Prop
  | [] => True
  | v :: l => Flat v ∧ FlatElems l

end

/-- The list is that of the sorted members of an object. -/
def ReadsAsMembers (l : List Json) : Prop :=
  ∃ f : List (String × Json), l = f.map pairOf ∧ f.Pairwise byKey ∧ (f.map Prod.fst).Nodup

mutual

/-- No object occurs in the value, and no list that could be one of members. -/
def Plain : Json → Prop
  | .obj _ => False
  | .arr l => ¬ ReadsAsMembers l ∧ PlainElems l
  | _ => True

def PlainElems : List Json → Prop
  | [] => True
  | v :: l => Plain v ∧ PlainElems l

end

theorem listedMembers_eq_map :
    listedMembers f = (f.map fun kv => (kv.1, listed kv.2)).map pairOf := by
  induction f with
  | nil => rfl
  | cons kv f ih =>
    obtain ⟨k, v⟩ := kv
    rw [listedMembers, ih, List.map_cons, List.map_cons]

theorem flatElems_iff {l : List Json} : FlatElems l ↔ ∀ v ∈ l, v.Flat := by
  induction l with
  | nil => simp [FlatElems]
  | cons v l ih => rw [FlatElems, ih, List.forall_mem_cons]

/-! ### Values without objects -/

mutual

theorem flat_listed : ∀ v : Json, v.listed.Flat
  | .null | .bool _ | .int _ | .float _ | .str _ => trivial
  | .arr l => flatElems_listed l
  | .obj f => flatElems_listedMembers f

theorem flatElems_listed : ∀ l : List Json, FlatElems (listedElems l)
  | [] => trivial
  | v :: l => ⟨flat_listed v, flatElems_listed l⟩

theorem flatElems_listedMembers : ∀ f : List (String × Json), FlatElems (listedMembers f)
  | [] => trivial
  | (_, v) :: f => ⟨⟨trivial, flat_listed v, trivial⟩, flatElems_listedMembers f⟩

end

mutual

theorem Flat.listed_eq : ∀ {v : Json}, v.Flat → v.listed = v
  | .null, _ | .bool _, _ | .int _, _ | .float _, _ | .str _, _ => rfl
  | .arr _, h => congrArg Json.arr (listedElems_of_flat h)
  | .obj _, h => h.elim

theorem listedElems_of_flat : ∀ {l : List Json}, FlatElems l → listedElems l = l
  | [], _ => rfl
  | _ :: _, h => congrArg₂ List.cons h.1.listed_eq (listedElems_of_flat h.2)

end

mutual

theorem Flat.sortKeys_eq : ∀ {v : Json}, v.Flat → v.sortKeys = v
  | .null, _ | .bool _, _ | .int _, _ | .float _, _ | .str _, _ => rfl
  | .arr _, h => congrArg Json.arr (sortElems_of_flat h)
  | .obj _, h => h.elim

theorem sortElems_of_flat : ∀ {l : List Json}, FlatElems l → sortElems l = l
  | [], _ => rfl
  | _ :: _, h => congrArg₂ List.cons h.1.sortKeys_eq (sortElems_of_flat h.2)

end

mutual

theorem flat_of_sortKeys : ∀ {v : Json}, v.sortKeys.Flat → v.Flat
  | .null, _ | .bool _, _ | .int _, _ | .float _, _ | .str _, _ => trivial
  | .arr _, h => flatElems_of_sortElems h
  | .obj _, h => h

theorem flatElems_of_sortElems : ∀ {l : List Json}, FlatElems (sortElems l) → FlatElems l
  | [], _ => trivial
  | _ :: _, h => ⟨flat_of_sortKeys h.1, flatElems_of_sortElems h.2⟩

end

mutual

theorem Plain.flat : ∀ {v : Json}, v.Plain → v.Flat
  | .null, _ | .bool _, _ | .int _, _ | .float _, _ | .str _, _ => trivial
  | .arr _, h => flatElems_of_plain h.2
  | .obj _, h => h

theorem flatElems_of_plain : ∀ {l : List Json}, PlainElems l → FlatElems l
  | [], _ => trivial
  | _ :: _, h => ⟨h.1.flat, flatElems_of_plain h.2⟩

end

theorem Flat.listed_sortKeys {v : Json} (h : v.Flat) : v.sortKeys.listed = v := by
  rw [h.sortKeys_eq, h.listed_eq]

mutual

theorem Determined.listed : ∀ {v : Json}, v.Determined → v.listed.Determined
  | .null, _ | .bool _, _ | .int _, _ | .str _, _ => trivial
  | .float _, h => h
  | .arr _, h => determinedElems_listed h
  | .obj _, h => determinedElems_listedMembers h.2

theorem determinedElems_listed : ∀ {l : List Json}, DeterminedElems l →
    DeterminedElems (listedElems l)
  | [], _ => trivial
  | _ :: _, h => ⟨h.1.listed, determinedElems_listed h.2⟩

theorem determinedElems_listedMembers : ∀ {f : List (String × Json)}, DeterminedFields f →
    DeterminedElems (listedMembers f)
  | [], _ => trivial
  | (_, _) :: _, h => ⟨⟨trivial, h.1.listed, trivial⟩, determinedElems_listedMembers h.2⟩

end

/-! ### What the lists of members determine -/

theorem readsAsMembers_listed {f : List (String × Json)} (h : (f.map Prod.fst).Nodup) :
    ReadsAsMembers (listedMembers ((sortMembers f).insertionSort byKey)) := by
  refine ⟨_, listedMembers_eq_map _, List.pairwise_map.2 ?_, ?_⟩
  · exact List.pairwise_insertionSort byKey _
  · rw [List.map_map]
    refine ((List.perm_insertionSort byKey (sortMembers f)).map Prod.fst).nodup_iff.2 ?_
    rwa [keys_sortMembers]

mutual

/-- **A plain value is the listing of itself alone.** -/
theorem Plain.eq_of_listed : ∀ {w v : Json}, v.Plain → w.Determined → w.sortKeys.listed = v →
    w = v
  | .null, _, _, _, h | .bool _, _, _, _, h | .int _, _, _, _, h | .float _, _, _, _, h
  | .str _, _, _, _, h => h
  | .arr _, .arr _, hv, hw, h =>
    congrArg Json.arr (eq_of_listedElems hv.2 hw (Json.arr.inj h))
  | .obj _, .arr _, hv, hw, h => (hv.1 (Json.arr.inj h ▸ readsAsMembers_listed hw.1)).elim

theorem eq_of_listedElems : ∀ {l m : List Json}, PlainElems m → DeterminedElems l →
    listedElems (sortElems l) = m → l = m
  | [], _, _, _, h => h
  | _ :: _, _ :: _, hm, hl, h =>
    congrArg₂ List.cons (hm.1.eq_of_listed hl.1 (List.cons.inj h).1)
      (eq_of_listedElems hm.2 hl.2 (List.cons.inj h).2)

end

/-- Objects with one listing have members with one listing. -/
theorem lookup_of_listed_eq {f g : List (String × Json)} (hf : (f.map Prod.fst).Nodup)
    (hg : (g.map Prod.fst).Nodup)
    (h : (Json.obj f).sortKeys.listed = (Json.obj g).sortKeys.listed) (k : String) :
    (f.lookup k).map (fun v => v.sortKeys.listed) =
      (g.lookup k).map fun v => v.sortKeys.listed := by
  rw [sortKeys, sortKeys, listed, listed, listedMembers_eq_map, listedMembers_eq_map,
    Json.arr.injEq] at h
  have hsorted := List.map_injective_iff.2 pairOf_injective h
  have hlookup : ∀ {m : List (String × Json)}, (m.map Prod.fst).Nodup →
      (((sortMembers m).insertionSort byKey).map fun kv => (kv.1, listed kv.2)).lookup k =
        (m.lookup k).map fun v => v.sortKeys.listed := by
    intro m hm
    rw [lookup_mapValues, lookup_sortKeys hm, Option.map_map]
    rfl
  rw [← hlookup hf, ← hlookup hg, hsorted]

theorem exists_of_readsAsMembers {l : List Json} (hflat : FlatElems l) (hl : DeterminedElems l)
    (h : ReadsAsMembers l) :
    ∃ f, (Json.obj f).Determined ∧ (Json.obj f).sortKeys.listed = .arr l := by
  obtain ⟨f, rfl, hsorted, hkeys⟩ := h
  have hvalue : ∀ kv ∈ f, kv.2.Flat ∧ kv.2.Determined := by
    intro kv hkv
    have hmem := List.mem_map_of_mem (f := pairOf) hkv
    exact ⟨(flatElems_iff.1 hflat _ hmem).2.1, (determinedElems_iff.1 hl _ hmem).2.1⟩
  refine ⟨f, ⟨hkeys, determinedFields_iff.2 fun kv hkv => (hvalue kv hkv).2⟩, ?_⟩
  have hsort : sortMembers f = f := by
    rw [sortMembers_eq_map]
    refine (List.map_congr_left fun kv hkv => ?_).trans f.map_id
    rw [(hvalue kv hkv).1.sortKeys_eq]
    rfl
  have hlist : (f.map fun kv => (kv.1, listed kv.2)) = f := by
    refine (List.map_congr_left fun kv hkv => ?_).trans f.map_id
    rw [(hvalue kv hkv).1.listed_eq]
    rfl
  rw [sortKeys, hsort, hsorted.insertionSort_eq, listed, listedMembers_eq_map, hlist]

mutual

/-- A value without objects that is not plain lists a value with an object. -/
theorem exists_not_flat : ∀ {v : Json}, v.Flat → v.Determined → ¬ v.Plain →
    ∃ w : Json, w.Determined ∧ w.sortKeys.listed = v ∧ ¬ w.Flat
  | .null, _, _, h | .bool _, _, _, h | .int _, _, _, h | .float _, _, _, h | .str _, _, _, h =>
    (h trivial).elim
  | .arr l, hflat, hv, h => by
    by_cases hreads : ReadsAsMembers l
    · obtain ⟨f, hf, hlisted⟩ := exists_of_readsAsMembers hflat hv hreads
      exact ⟨.obj f, hf, hlisted, id⟩
    · obtain ⟨m, hm, hlisted, hnot⟩ :=
        exists_not_flatElems hflat hv fun hplain => h ⟨hreads, hplain⟩
      exact ⟨.arr m, hm, congrArg Json.arr hlisted, hnot⟩

theorem exists_not_flatElems : ∀ {l : List Json}, FlatElems l → DeterminedElems l →
    ¬ PlainElems l → ∃ m, DeterminedElems m ∧ listedElems (sortElems m) = l ∧ ¬ FlatElems m
  | [], _, _, h => (h trivial).elim
  | v :: l, hflat, hl, h => by
    by_cases hv : v.Plain
    · obtain ⟨m, hm, hlisted, hnot⟩ :=
        exists_not_flatElems hflat.2 hl.2 fun hplain => h ⟨hv, hplain⟩
      exact ⟨v :: m, ⟨hl.1, hm⟩, congrArg₂ List.cons hv.flat.listed_sortKeys hlisted,
        fun hm => hnot hm.2⟩
    · obtain ⟨w, hw, hlisted, hnot⟩ := exists_not_flat hflat.1 hl.1 hv
      refine ⟨w :: l, ⟨hw, hl.2⟩, congrArg₂ List.cons hlisted ?_, fun hm => hnot hm.1⟩
      rw [sortElems_of_flat hflat.2, listedElems_of_flat hflat.2]

end

/-- **A value that is not plain shares its listing with a value that says something else.** -/
theorem exists_of_not_plain {v : Json} (hv : v.Determined) (h : ¬ v.Plain) :
    ∃ w : Json, w.Determined ∧ w.sortKeys.listed = v.sortKeys.listed ∧ ¬ Reordered w v := by
  by_cases hflat : v.Flat
  · obtain ⟨w, hw, hlisted, hnot⟩ := exists_not_flat hflat hv h
    refine ⟨w, hw, hlisted.trans hflat.listed_sortKeys.symm, fun hsame => hnot ?_⟩
    exact flat_of_sortKeys (((hsame.sortKeys_eq hw).trans hflat.sortKeys_eq).symm ▸ hflat)
  · have hlist : v.sortKeys.listed.Flat := flat_listed _
    refine ⟨_, hv.sortKeys.listed, hlist.listed_sortKeys, fun hsame => hflat ?_⟩
    have hsorted := hsame.sortKeys_eq hv.sortKeys.listed
    rw [hlist.sortKeys_eq] at hsorted
    exact flat_of_sortKeys (hsorted ▸ hlist)

end Json

end Ansible
