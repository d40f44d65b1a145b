import Ansible.Relay.BoardCreation

/-!
# The identifiers of boards

A board is named by its number, by its slug, and by either of them behind the id of a node.  A
lookup takes a text of digits for a number first, and titles of digits have slugs of digits.

## Main definitions

* `boardStep` — boards are created and looked up.

## Main results

* `board_identifiers_resolve` — **the identifiers of boards are unambiguous throughout a run
  exactly when the numerals of its boards are kept apart.**
-/

namespace Ansible

/-! ### Numbers as texts -/

theorem utf8EncodeChar_of_digit {c : Char} (h : c.isDigit = true) :
    String.utf8EncodeChar c = [UInt8.ofNat c.toNat] := by
  have hv : c.val.toNat = c.toNat := rfl
  have h9 : c.toNat ≤ 57 := (Char.isDigit_iff_toNat.1 h).2
  have hlt : c.val.toNat ≤ 127 := by omega
  rw [String.utf8EncodeChar, if_pos hlt]
  rfl

theorem isDigitByte_ofNat {c : Char} (h : c.isDigit = true) :
    isDigitByte (UInt8.ofNat c.toNat) = true := by
  obtain ⟨h0, h9⟩ : 48 ≤ c.toNat ∧ c.toNat ≤ 57 := Char.isDigit_iff_toNat.1 h
  rw [isDigitByte, UInt8.toNat_ofNat', Nat.mod_eq_of_lt (by omega)]
  simp [h0, h9]

theorem foldl_digits {l : List Char} (hl : ∀ c ∈ l, c.isDigit = true) (n : ℕ) :
    (l.flatMap String.utf8EncodeChar).foldl (fun n x => n * 10 + (x.toNat - 48)) n =
      Nat.ofDigitChars 10 l n := by
  induction l generalizing n with
  | nil => simp
  | cons c l ih =>
    have hc := hl c List.mem_cons_self
    have h9 : c.toNat ≤ 57 := (Char.isDigit_iff_toNat.1 hc).2
    rw [List.flatMap_cons, utf8EncodeChar_of_digit hc, List.singleton_append, List.foldl_cons,
      ih fun d hd => hl d (List.mem_cons_of_mem c hd), Nat.ofDigitChars_cons, UInt8.toNat_ofNat',
      Nat.mod_eq_of_lt (by omega), Nat.mul_comm]
    rfl

namespace ForumHost

variable {n : ℕ} {x : UInt8} {b : ForumHostBoard} {h : ForumHost}

theorem isDigit_of_mem_digits {c : Char} (hc : c ∈ Nat.toDigits 10 n) : c.isDigit = true :=
  Nat.isDigit_of_mem_toDigits (by omega) (by omega) hc

theorem bytes_digits_isDigit (hx : x ∈ bytes (String.ofList (Nat.toDigits 10 n))) :
    isDigitByte x = true := by
  rw [bytes_ofList, List.mem_flatMap] at hx
  obtain ⟨c, hc, hmem⟩ := hx
  rw [utf8EncodeChar_of_digit (isDigit_of_mem_digits hc), List.mem_singleton] at hmem
  rw [hmem]
  exact isDigitByte_ofNat (isDigit_of_mem_digits hc)

theorem bytes_digits_ne_nil (n : ℕ) : bytes (String.ofList (Nat.toDigits 10 n)) ≠ [] := by
  rw [bytes_ofList]
  cases hdigits : Nat.toDigits 10 n with
  | nil => exact absurd hdigits Nat.toDigits_ne_nil
  | cons c l =>
    have hc : c.isDigit = true := isDigit_of_mem_digits (hdigits ▸ List.mem_cons_self)
    rw [List.flatMap_cons, utf8EncodeChar_of_digit hc]
    exact List.cons_ne_nil _ _

theorem parsePositive_digits (hn : 0 < n) :
    parsePositive (bytes (String.ofList (Nat.toDigits 10 n))) = some n := by
  have hparse : parseDigits (bytes (String.ofList (Nat.toDigits 10 n))) = some n := by
    rw [parseDigits, if_pos ⟨bytes_digits_ne_nil n, List.all_eq_true.2 fun x hx =>
      bytes_digits_isDigit hx⟩, bytes_ofList, foldl_digits fun c hc => isDigit_of_mem_digits hc,
      Nat.ofDigitChars_ten_toDigits]
  unfold parsePositive
  split
  · next digits hsigned =>
    have hplus := bytes_digits_isDigit (hsigned ▸ List.mem_cons_self)
    exact absurd hplus (by decide)
  · rw [hparse]
    exact Option.filter_some_pos (by simpa using hn)

theorem parseDigits_of_mem {s : Binary} (hx : x ∈ s) (hdigit : isDigitByte x = false) :
    parseDigits s = none := by
  rw [parseDigits, if_neg]
  rintro ⟨-, hall⟩
  have := List.all_eq_true.1 hall x hx
  rw [hdigit] at this
  cases this

theorem parsePositive_of_mem {s : Binary} (hx : x ∈ s) (hdigit : isDigitByte x = false)
    (hsign : x ≠ 43) : parsePositive s = none := by
  unfold parsePositive
  split
  · next digits =>
    have hmem := (List.mem_cons.1 hx).resolve_left hsign
    rw [parseDigits_of_mem hmem hdigit]
    rfl
  · rw [parseDigits_of_mem hx hdigit]
    rfl

/-! ### Identifiers -/

/-- The number of the board and its slug. -/
def ownIdentifiers (b : ForumHostBoard) : List String :=
  [String.ofList (Nat.toDigits 10 b.boardId), b.hostedBoardId]

/-- A board is named by its own identifiers, and by these behind the id of a node. -/
inductive Names (b : ForumHostBoard) : String → Prop
  | own {id : String} : id ∈ ownIdentifiers b → Names b id
  | behind {node id : String} : '_' ∉ chars node → id ∈ ownIdentifiers b →
      Names b (node ++ "_" ++ id)

/-- Every identifier of the board finds it. -/
def Resolves (C : HostConfig) (h : ForumHost) (b : ForumHostBoard) : Prop :=
  ∀ id, Names b id → ∀ now, (getBoard C now (.str id) h).1.map (·.core) = some b.core

/-- Numbers are positive, and slugs are not empty and have no separator of identifiers. -/
structure Named (h : ForumHost) : Prop where
  pos : ∀ b ∈ h.boards.rows, 0 < b.boardId
  ne_nil : ∀ b ∈ h.boards.rows, chars b.hostedBoardId ≠ []
  separator : ∀ b ∈ h.boards.rows, '_' ∉ chars b.hostedBoardId

/-- No slug spells the number of another board. -/
def Unambiguous (h : ForumHost) : Prop :=
  ∀ b ∈ h.boards.rows, ∀ c ∈ h.boards.rows,
    parsePositive (bytes b.hostedBoardId) = some c.boardId → b.boardId = c.boardId

theorem bytes_append (s t : String) : bytes (s ++ t) = bytes s ++ bytes t := by
  rw [bytes_eq_utf8, bytes_eq_utf8, bytes_eq_utf8, String.toList_append, Text.utf8,
    List.flatMap_append, ← Text.utf8, ← Text.utf8]

theorem separator_not_mem_bytes {s : String} (hs : '_' ∉ chars s) : (95 : UInt8) ∉ bytes s := by
  intro hmem
  rw [bytes_eq_utf8, Text.utf8, List.mem_flatMap] at hmem
  obtain ⟨c, hc, hbyte⟩ := hmem
  have hcode : c.toNat = '_'.toNat := toNat_of_mem_utf8EncodeChar (by decide) hbyte
  have hsep : c = '_' := Char.toNat_inj.1 hcode
  rw [chars_eq_toList] at hs
  exact hs (hsep ▸ hc)

theorem getByBoardId_eq_some {t : BoardTable} :
    t.getByBoardId n = some b ↔ b ∈ t.rows ∧ b.boardId = n := by
  rw [BoardTable.getByBoardId, Table.find_eq_some_iff]
  · simp
  · intro x hx y hy hpx hpy
    rw [beq_iff_eq] at hpx hpy
    exact t.valid.board_id.eq hx hy rfl rfl (hpx.trans hpy.symm)

theorem getByBytes_slug (hb : b ∈ h.boards.rows) :
    getByBytes (bytes b.hostedBoardId) h = some b := by
  rw [getByBytes, Table.find_eq_some_iff]
  · exact ⟨hb, beq_iff_eq.2 rfl⟩
  · intro x hx y hy hpx hpy
    rw [beq_iff_eq] at hpx hpy
    exact h.boards.valid.hosted_board_id.eq hx hy rfl rfl
      (bytes_injective (hpx.trans hpy.symm))

/-- The numeral of a board and a slug that is no numeral of another one find the board. -/
theorem find_own (hnamed : Named h) (hapart : Unambiguous h) (hb : b ∈ h.boards.rows) {id : String}
    (hid : id ∈ ownIdentifiers b) :
    (canonicalBoard (bytes id) h).or (getByBytes (bytes id) h) = some b := by
  rcases List.mem_cons.1 hid with rfl | hid
  · rw [canonicalBoard, parsePositive_digits (hnamed.pos b hb), Option.bind_some,
      getByBoardId_eq_some.2 ⟨hb, rfl⟩]
    rfl
  · obtain rfl := List.mem_singleton.1 hid
    rw [canonicalBoard]
    cases hparse : parsePositive (bytes b.hostedBoardId) with
    | none => exact getByBytes_slug hb
    | some n =>
      rw [Option.bind_some]
      cases hget : h.boards.getByBoardId n with
      | none => exact getByBytes_slug hb
      | some c =>
        obtain ⟨hc, rfl⟩ := getByBoardId_eq_some.1 hget
        have hsame : b.boardId = c.boardId := hapart b hb c hc hparse
        exact congrArg some (h.boards.valid.board_id.eq hc hb rfl rfl hsame.symm)

/-- What is behind the id of a node is looked up by itself. -/
theorem namedBoard_behind (hnamed : Named h) {node id : String} (hnode : '_' ∉ chars node)
    (hid : bytes id ≠ []) :
    namedBoard (node ++ "_" ++ id) h =
      (canonicalBoard (bytes id) h).or (getByBytes (bytes id) h) := by
  have hbytes : bytes (node ++ "_" ++ id) = bytes node ++ 95 :: bytes id := by
    rw [bytes_append, bytes_append, List.append_assoc]
    rfl
  have hmem : (95 : UInt8) ∈ bytes (node ++ "_" ++ id) := by
    rw [hbytes]
    exact List.mem_append_right _ List.mem_cons_self
  have hcanonical : canonicalBoard (bytes (node ++ "_" ++ id)) h = none := by
    rw [canonicalBoard, parsePositive_of_mem hmem (by decide) (by decide)]
    rfl
  have hslug : getByBytes (bytes (node ++ "_" ++ id)) h = none := by
    rw [getByBytes, Table.find_eq_none]
    intro b hb
    rw [beq_eq_false_iff_ne]
    intro heq
    exact separator_not_mem_bytes (hnamed.separator b hb) (heq ▸ hmem)
  have hsuffix : compositeSuffix (bytes (node ++ "_" ++ id)) = some (bytes id) := by
    have hbefore : ∀ x ∈ bytes node, (x != 95) = true := by
      intro x hx
      rw [bne_iff_ne]
      rintro rfl
      exact separator_not_mem_bytes hnode hx
    rw [compositeSuffix, hbytes, List.dropWhile_append_of_pos hbefore,
      List.dropWhile_cons_of_neg (by decide)]
    cases hrest : bytes id with
    | nil => exact absurd hrest hid
    | cons x l => rfl
  rw [namedBoard, hcanonical, hslug, getCompositeBoard, hsuffix]
  rfl

theorem core_activateDueBoardPolicy (C : HostConfig) (now : Time) (b : ForumHostBoard)
    (h : ForumHost) : (activateDueBoardPolicy C now b h).1.core = b.core := by
  unfold activateDueBoardPolicy activatePolicyVersion
  repeat' split
  all_goals rfl

theorem core_getBoard (C : HostConfig) (now : Time) (id : String) (h : ForumHost) :
    (getBoard C now (.str id) h).1.map (·.core) = (namedBoard id h).map (·.core) := by
  rw [getBoard]
  cases namedBoard id h with
  | none => rfl
  | some b => exact congrArg some (core_activateDueBoardPolicy C now b h)

theorem bytes_ne_nil {s : String} (hs : chars s ≠ []) : bytes s ≠ [] := by
  intro hbytes
  exact hs (by rw [chars, hbytes]; rfl)

/-- **All identifiers find their boards when no slug spells the number of another board.** -/
theorem resolves_iff {C : HostConfig} (hnamed : Named h) :
    (∀ b ∈ h.boards.rows, Resolves C h b) ↔ Unambiguous h := by
  constructor
  · intro hall b hb c hc hparse
    have hfound := hall b hb b.hostedBoardId (.own (List.mem_cons_of_mem _ List.mem_cons_self)) 0
    have hcanonical : canonicalBoard (bytes b.hostedBoardId) h = some c := by
      rw [canonicalBoard, hparse, Option.bind_some]
      exact getByBoardId_eq_some.2 ⟨hc, rfl⟩
    rw [core_getBoard, namedBoard, hcanonical] at hfound
    exact (congrArg Prod.fst (Option.some.inj hfound)).symm
  · rintro hapart b hb id hid now
    rw [core_getBoard]
    cases hid with
    | own hid =>
      rw [namedBoard, find_own hnamed hapart hb hid]
      rfl
    | @behind node id hnode hid =>
      have hne : bytes id ≠ [] := by
        rcases List.mem_cons.1 hid with rfl | hslug
        · exact bytes_digits_ne_nil _
        · obtain rfl := List.mem_singleton.1 hslug
          exact bytes_ne_nil (hnamed.ne_nil b hb)
      rw [namedBoard_behind hnamed hnode hne, find_own hnamed hapart hb hid]
      rfl

end ForumHost

/-! ### New boards -/

namespace BoardCreation

/-- A new board, whose slug is the first candidate that was free. -/
structure New (boardId : ℕ) (i : CreateBoardIntent) (b : ForumHostBoard) (h h' : ForumHost) :
    Prop where
  boardId : b.boardId = boardId
  slug : if slugTaken h (String.ofList (slugify i.title)) = true
    then '-' ∈ chars b.hostedBoardId ∧ '_' ∉ chars b.hostedBoardId
    else b.hostedBoardId = String.ofList (slugify i.title)
  rows : h'.boards.rows = h.boards.rows ++ [b]

/-- The intent has not been accepted before. -/
def isNew (i : CreateBoardIntent) (h : ForumHost) : Bool :=
  h.acceptedIntents.all fun accepted => accepted.intentId != i.intentId

variable {C : HostConfig} {i : CreateBoardIntent} {slug : String} {boardId : ℕ} {b : ForumHostBoard}
  {P : Platform} {now : Time} {h h' : ForumHost}

theorem newBoard_boardId (h : newBoard C i slug boardId = some b) : b.boardId = boardId := by
  unfold newBoard at h
  split at h
  · split at h
    · cases h
      rfl
    · cases h
  · cases h

/-- A new intent creates a board under a free slug. -/
theorem createWithSlug_new (hnew : isNew i h = true)
    (hok : createWithSlug P C now boardId i slug h = some (.ok (b, h'))) :
    slugTaken h slug = false ∧ b.hostedBoardId = slug ∧ b.boardId = boardId ∧
      h'.boards.rows = h.boards.rows ++ [b] := by
  have hnone : h.acceptedIntents.find? (·.intentId == i.intentId) = none := by
    rw [List.find?_eq_none]
    intro accepted hmem heq
    have hne := List.all_eq_true.1 hnew accepted hmem
    rw [bne, heq] at hne
    cases hne
  unfold createWithSlug at hok
  rw [hnone] at hok
  dsimp only at hok
  split at hok
  · cases hok
  split at hok
  · cases hok
  next b' hboard =>
  split at hok
  · cases hok
  next hslug =>
  split at hok
  · cases hok
  next boards hinsert =>
  obtain ⟨rfl, rfl⟩ := Prod.mk.inj (Except.ok.inj (Option.some.inj hok))
  exact ⟨Bool.not_eq_true _ ▸ hslug, (newBoard_spec hboard).1, newBoard_boardId hboard,
    Table.rows_of_commit hinsert⟩

theorem createWithSlug_eq_none (hnone : createWithSlug P C now boardId i slug h = none) :
    slugTaken h slug = true := by
  unfold createWithSlug at hnone
  split at hnone
  · cases hnone
  split at hnone
  · cases hnone
  split at hnone
  · cases hnone
  split at hnone
  next htaken =>
    exact htaken
  split at hnone
  all_goals cases hnone

theorem mem_slugify {title : String} {c : Char} (hc : c ∈ slugify title) :
    c = '-' ∨ isSlugLetter c = true := by
  by_cases hsep : c = '-'
  · exact .inl hsep
  · obtain ⟨word, hword, hmem⟩ := exists_mem_splitOn hsep hc
    exact .inr ((plain_slugOr (by decide) word hword).2 c hmem)

theorem separator_not_mem_slugify (title : String) : '_' ∉ slugify title := by
  intro hmem
  rcases mem_slugify hmem with h | h
  · exact absurd h (by decide)
  · exact absurd h (by decide)

theorem slugify_ne_nil (title : String) : slugify title ≠ [] := by
  intro hnil
  have hplain : Plain (slugify title) := plain_slugOr (by decide)
  rw [hnil] at hplain
  exact (hplain [] (by rw [List.splitOn_nil]; exact List.mem_cons_self)).1 rfl

theorem separator_not_mem_digits (n : ℕ) : '_' ∉ Nat.toDigits 10 n := fun hmem =>
  absurd (ForumHost.isDigit_of_mem_digits hmem) (by decide)

theorem mem_slugCandidate {base : Text} {attempt : ℕ} (hattempt : attempt ≠ 1) :
    '-' ∈ slugCandidate base attempt := by
  rw [slugCandidate, if_neg hattempt]
  exact List.mem_append_right _ List.mem_cons_self

theorem separator_not_mem_slugCandidate (title : String) (attempt : ℕ) :
    '_' ∉ slugCandidate (slugify title) attempt := by
  unfold slugCandidate
  split
  · exact separator_not_mem_slugify title
  · intro hmem
    rcases List.mem_append.1 hmem with hmem | hmem
    · exact separator_not_mem_slugify title hmem
    · rcases List.mem_cons.1 hmem with h | hmem
      · exact absurd h (by decide)
      · exact separator_not_mem_digits attempt hmem

theorem createFrom_new (hnew : isNew i h = true) (left attempt : ℕ)
    (hok : createFrom P C now boardId i h attempt left = .ok (b, h')) :
    ∃ n, attempt ≤ n ∧ (attempt < n → slugTaken h (String.ofList
        (slugCandidate (slugify i.title) attempt)) = true) ∧
      slugTaken h (String.ofList (slugCandidate (slugify i.title) n)) = false ∧
      b.hostedBoardId = String.ofList (slugCandidate (slugify i.title) n) ∧
      b.boardId = boardId ∧ h'.boards.rows = h.boards.rows ++ [b] := by
  induction left generalizing attempt with
  | zero => cases hok
  | succ left ih =>
    unfold createFrom at hok
    split at hok
    · next result hresult =>
      rw [hok] at hresult
      obtain ⟨hfree, hslug, hid, hrows⟩ := createWithSlug_new hnew hresult
      exact ⟨attempt, le_rfl, fun h => absurd h (lt_irrefl _), hfree, hslug, hid, hrows⟩
    · next hnone =>
      obtain ⟨n, hle, -, hfree, hslug, hid, hrows⟩ := ih (attempt + 1) hok
      exact ⟨n, by omega, fun _ => createWithSlug_eq_none hnone, hfree, hslug, hid, hrows⟩

/-- **A new board has the slug of its title, or a slug with a hyphen.** -/
theorem createBoard_new (hnew : isNew i h = true)
    (hok : createBoard P C now boardId i h = .ok (b, h')) : New boardId i b h h' := by
  obtain ⟨_, -, hfrom⟩ := bind_eq_ok.1 hok
  obtain ⟨n, hle, hskipped, hfree, hslug, hid, hrows⟩ := createFrom_new hnew _ _ hfrom
  refine ⟨hid, ?_, hrows⟩
  have hfirst : slugCandidate (slugify i.title) 1 = slugify i.title := if_pos rfl
  rw [hfirst] at hskipped
  split
  · next htaken =>
    have hn : n ≠ 1 := by
      rintro rfl
      rw [hfirst, htaken] at hfree
      cases hfree
    rw [hslug, chars_ofList]
    exact ⟨mem_slugCandidate hn, separator_not_mem_slugCandidate i.title n⟩
  · next htaken =>
    have hn : n = 1 := by
      by_contra hne
      exact htaken (hskipped (by omega))
    rw [hslug, hn, hfirst]

theorem createBoard_old (hold : isNew i h = false)
    (hok : createBoard P C now boardId i h = .ok (b, h')) : h' = h := by
  obtain ⟨_, -, hfrom⟩ := bind_eq_ok.1 hok
  obtain ⟨accepted, hmem, heq⟩ := List.all_eq_false.1 hold
  have hsome : ∃ accepted, h.acceptedIntents.find? (·.intentId == i.intentId) = some accepted := by
    refine Option.isSome_iff_exists.1 (List.find?_isSome.2 ⟨accepted, hmem, ?_⟩)
    simpa using heq
  obtain ⟨found, hfound⟩ := hsome
  rw [maxSlugAttempts, createFrom, createWithSlug, hfound] at hfrom
  dsimp only at hfrom
  generalize resolveAcceptedIntent P i found h = resolved at hfrom
  cases resolved with
  | error e => cases hfrom
  | ok c => exact (Prod.mk.inj (Except.ok.inj hfrom)).2.symm

end BoardCreation

/-! ### Runs -/

open ForumHost BoardCreation

inductive BoardAction
  /-- The sequence of numbers is at `drawn + 1`, or a request that began later has taken that. -/
  | create (now : Time) (drawn : ℕ) (i : CreateBoardIntent)
  | lookup (now : Time) (id : Json)

def boardStep (P : Platform) (C : HostConfig) (h : ForumHost) : BoardAction → ForumHost
  | .create now drawn i =>
    match createBoard P C now (drawn + 1) i h with
    | .ok (_, h') => h'
    | .error _ => h
  | .lookup now id => (getBoard C now id h).2

/-- A new board gets a slug that spells the number of no board, and a number that the slug of no
board spells. -/
def NumeralsApart (P : Platform) (C : HostConfig) (h : ForumHost) : BoardAction → Prop
  | .create now drawn i =>
    isNew i h = true → (createBoard P C now (drawn + 1) i h).isOk = true →
      (slugTaken h (String.ofList (slugify i.title)) = false → ∀ b ∈ h.boards.rows,
        parsePositive (bytes (String.ofList (slugify i.title))) ≠ some b.boardId) ∧
      ∀ b ∈ h.boards.rows, parsePositive (bytes b.hostedBoardId) ≠ some (drawn + 1)
  | .lookup _ _ => True

variable {b : ForumHostBoard} {h h' : ForumHost} {boardId : ℕ} {i : CreateBoardIntent}

variable (P : Platform) (C : HostConfig)

theorem exists_board_boardStep (h : ForumHost) (a : BoardAction)
    (hb : ∃ c ∈ h.boards.rows, c.core = b.core) :
    ∃ c ∈ (boardStep P C h a).boards.rows, c.core = b.core := by
  cases a with
  | create now drawn i =>
    dsimp only [boardStep]
    split
    · next c h' hok =>
      cases hnew : isNew i h with
      | true =>
        obtain ⟨d, hd, hcore⟩ := hb
        rw [(createBoard_new hnew hok).rows]
        exact ⟨d, List.mem_append_left _ hd, hcore⟩
      | false => rwa [createBoard_old hnew hok]
    · exact hb
  | lookup now id =>
    obtain ⟨c, hc, hcore⟩ := hb
    have hmem : c.core ∈ (getBoard C now id h).2.boards.rows.map ForumHostBoard.core := by
      rw [(getBoard_frame C now id h).boards]
      exact List.mem_map_of_mem hc
    obtain ⟨d, hd, hsame⟩ := List.mem_map.1 hmem
    exact ⟨d, hd, hsame.trans hcore⟩

theorem named_of_sameForum (hsame : h.SameForum h') (hnamed : Named h) : Named h' := by
  refine ⟨fun b hb => ?_, fun b hb => ?_, fun b hb => ?_⟩
  all_goals
    obtain ⟨c, hc, hcore⟩ := hsame.exists_board hb
    obtain ⟨hid, hslug, -⟩ : c.boardId = b.boardId ∧ c.hostedBoardId = b.hostedBoardId ∧ True :=
      ⟨congrArg Prod.fst hcore, congrArg (·.2.1) hcore, trivial⟩
  · exact hid ▸ hnamed.pos c hc
  · exact hslug ▸ hnamed.ne_nil c hc
  · exact hslug ▸ hnamed.separator c hc

theorem SameForum.symm (hsame : h.SameForum h') : h'.SameForum h :=
  ⟨hsame.acceptedIntents.symm, hsame.reports.symm, hsame.moderationActions.symm,
    hsame.boards.symm⟩

theorem unambiguous_of_sameForum (hsame : h.SameForum h') (hapart : Unambiguous h) :
    Unambiguous h' := by
  intro b hb c hc hparse
  obtain ⟨b₀, hb₀, hbcore⟩ := hsame.exists_board hb
  obtain ⟨c₀, hc₀, hccore⟩ := hsame.exists_board hc
  have hslug : b₀.hostedBoardId = b.hostedBoardId := congrArg (·.2.1) hbcore
  have hb₀id : b₀.boardId = b.boardId := congrArg Prod.fst hbcore
  have hc₀id : c₀.boardId = c.boardId := congrArg Prod.fst hccore
  rw [← hb₀id, ← hc₀id]
  exact hapart b₀ hb₀ c₀ hc₀ (by rw [hslug, hc₀id, hparse])

theorem BoardCreation.New.named (hb : New boardId i b h h') (hpos : 0 < boardId) (hnamed : Named h)
    : Named h' := by
  have hslug : chars b.hostedBoardId ≠ [] ∧ '_' ∉ chars b.hostedBoardId := by
    have hs := hb.slug
    split at hs
    · exact ⟨List.ne_nil_of_mem hs.1, hs.2⟩
    · rw [hs, chars_ofList]
      exact ⟨slugify_ne_nil _, separator_not_mem_slugify _⟩
  refine ⟨fun c hc => ?_, fun c hc => ?_, fun c hc => ?_⟩
  all_goals
    rw [hb.rows] at hc
    rcases List.mem_append.1 hc with hc | hc
  · exact hnamed.pos c hc
  · rw [List.mem_singleton.1 hc, hb.boardId]
    exact hpos
  · exact hnamed.ne_nil c hc
  · exact List.mem_singleton.1 hc ▸ hslug.1
  · exact hnamed.separator c hc
  · exact List.mem_singleton.1 hc ▸ hslug.2

theorem named_boardStep (h : ForumHost) (a : BoardAction) (hnamed : Named h) :
    Named (boardStep P C h a) := by
  cases a with
  | create now drawn i =>
    dsimp only [boardStep]
    split
    · next c h' hok =>
      cases hnew : isNew i h with
      | true => exact (createBoard_new hnew hok).named (Nat.succ_pos drawn) hnamed
      | false => rwa [createBoard_old hnew hok]
    · exact hnamed
  | lookup now id => exact named_of_sameForum (getBoard_frame C now id h) hnamed

/-- The slug of a new board is a numeral only when it is that of its title. -/
theorem BoardCreation.New.parsePositive_slug (hb : New boardId i b h h') {n : ℕ} :
    parsePositive (bytes b.hostedBoardId) = some n ↔
      slugTaken h (String.ofList (slugify i.title)) = false ∧
        parsePositive (bytes (String.ofList (slugify i.title))) = some n := by
  have hs := hb.slug
  split at hs
  · next htaken =>
    have hmem : (45 : UInt8) ∈ bytes b.hostedBoardId := by
      rw [bytes_eq_utf8, Text.utf8, List.mem_flatMap]
      exact ⟨'-', chars_eq_toList _ ▸ hs.1, by decide⟩
    rw [parsePositive_of_mem hmem (by decide) (by decide), htaken]
    simp
  · next htaken =>
    rw [hs]
    simp [htaken]

theorem unambiguous_new (hb : New boardId i b h h') :
    Unambiguous h' ↔ Unambiguous h ∧
      (slugTaken h (String.ofList (slugify i.title)) = false → ∀ c ∈ h.boards.rows,
        parsePositive (bytes (String.ofList (slugify i.title))) ≠ some c.boardId) ∧
      ∀ c ∈ h.boards.rows, parsePositive (bytes c.hostedBoardId) ≠ some boardId := by
  have hself : b ∈ h'.boards.rows := hb.rows ▸ List.mem_append_right _ List.mem_cons_self
  have hold : ∀ c ∈ h.boards.rows, c ∈ h'.boards.rows := fun c hc =>
    hb.rows ▸ List.mem_append_left _ hc
  have hfresh : ∀ c ∈ h.boards.rows, c.boardId ≠ b.boardId := by
    have hunique := h'.boards.valid.board_id
    rw [hb.rows] at hunique
    exact hunique.ne_of_append
  constructor
  · intro hapart
    refine ⟨fun c hc d hd => hapart c (hold c hc) d (hold d hd), fun hfree c hc hparse => ?_,
      fun c hc hparse => ?_⟩
    · exact hfresh c hc
        (hapart b hself c (hold c hc) (hb.parsePositive_slug.2 ⟨hfree, hparse⟩)).symm
    · exact hfresh c hc (hapart c (hold c hc) b hself (hb.boardId ▸ hparse))
  · rintro ⟨hapart, hslug, hnumber⟩ c hc d hd hparse
    rw [hb.rows] at hc hd
    rcases List.mem_append.1 hc with hc | hc <;> rcases List.mem_append.1 hd with hd | hd
    · exact hapart c hc d hd hparse
    · rw [List.mem_singleton.1 hd, hb.boardId] at hparse
      exact absurd hparse (hnumber c hc)
    · rw [List.mem_singleton.1 hc] at hparse
      obtain ⟨hfree, hparse⟩ := hb.parsePositive_slug.1 hparse
      exact absurd hparse (hslug hfree d hd)
    · rw [List.mem_singleton.1 hc, List.mem_singleton.1 hd]

/-- A step keeps the slugs apart from the numbers exactly when its new board does. -/
theorem unambiguous_boardStep (h : ForumHost) (a : BoardAction) :
    Unambiguous (boardStep P C h a) ↔ Unambiguous h ∧ NumeralsApart P C h a := by
  cases a with
  | create now drawn i =>
    dsimp only [boardStep, NumeralsApart]
    cases hok : createBoard P C now (drawn + 1) i h with
    | error e => simp [Except.isOk, Except.toBool]
    | ok r =>
      obtain ⟨b, h'⟩ := r
      cases hnew : isNew i h with
      | true =>
        rw [unambiguous_new (createBoard_new hnew hok)]
        simp [Except.isOk, Except.toBool]
      | false =>
        rw [createBoard_old hnew hok]
        simp
  | lookup now id =>
    have hsame := getBoard_frame C now id h
    constructor
    · intro hapart
      exact ⟨unambiguous_of_sameForum (SameForum.symm hsame) hapart, trivial⟩
    · rintro ⟨hapart, -⟩
      exact unambiguous_of_sameForum hsame hapart

theorem named_empty : Named ForumHost.empty :=
  ⟨by rintro b ⟨⟩, by rintro b ⟨⟩, by rintro b ⟨⟩⟩

theorem resolves_congr {C : HostConfig} {c : ForumHostBoard} (hcore : b.core = c.core)
    (hb : Resolves C h b) : Resolves C h c := by
  have hid : b.boardId = c.boardId := congrArg Prod.fst hcore
  have hslug : b.hostedBoardId = c.hostedBoardId := congrArg (·.2.1) hcore
  have hown : ownIdentifiers c = ownIdentifiers b := by
    rw [ownIdentifiers, ownIdentifiers, hid, hslug]
  intro id hnames now
  rw [← hcore]
  refine hb id ?_ now
  cases hnames with
  | own hmem => exact .own (hown ▸ hmem)
  | behind hnode hmem => exact .behind hnode (hown ▸ hmem)

/-- **The identifiers of each board find it, from its creation on, exactly when the numerals of
the boards are kept apart.**  An identifier is read as a number first, so what must be kept along
the run is that no slug spells the number of another board; no step changes number or slug of a
board. -/
theorem board_identifiers_resolve (P : Platform) (C : HostConfig) (as : List BoardAction) :
    Along (boardStep P C) (NumeralsApart P C) ForumHost.empty as ↔
      ∀ bs cs ds, as = bs ++ cs ++ ds →
        ∀ b ∈ (exec (boardStep P C) ForumHost.empty bs).boards.rows,
          Resolves C (exec (boardStep P C) ForumHost.empty (bs ++ cs)) b := by
  have hnamed : ∀ bs, Named (exec (boardStep P C) ForumHost.empty bs) :=
    exec_invariant (named_boardStep P C) named_empty
  rw [along_iff_reached (I := Named) (P := Unambiguous) (named_boardStep P C)
    (fun h a _ => unambiguous_boardStep P C h a) named_empty (by rintro b ⟨⟩)]
  constructor
  · intro hall bs cs ds hsplit b hb
    obtain ⟨c, hc, hcore⟩ : ∃ c ∈ (exec (boardStep P C) ForumHost.empty (bs ++ cs)).boards.rows,
        c.core = b.core := by
      rw [exec_append]
      exact exec_invariant (fun h a => exists_board_boardStep P C h a) ⟨b, hb, rfl⟩ cs
    exact resolves_congr hcore ((resolves_iff (hnamed _)).2 (hall (bs ++ cs) ds hsplit) c hc)
  · intro hall bs ds hsplit
    refine (resolves_iff (C := C) (hnamed bs)).1 fun b hb => ?_
    have hresolves := hall bs [] ds (by rw [List.append_nil]; exact hsplit) b hb
    rwa [List.append_nil] at hresolves

/-! ### A title of digits -/

/-- An intent that leaves everything but the title to the host. -/
def titled (intentId title : String) : CreateBoardIntent where
  intentId
  authorDid := "did:elix:z1"
  title
  board := .obj []

/-- The first board is titled after the number of the second. -/
def titledRun : List BoardAction :=
  [.create 0 0 (titled "i1" "2"), .create 1 1 (titled "i2" "News")]

theorem titledRun_facts :
    ((exec (boardStep .toy {}) ForumHost.empty (titledRun.take 1)).boards.rows.map fun b =>
        (b.boardId, b.hostedBoardId)) = [(1, "2")] ∧
      (namedBoard "2" (exec (boardStep .toy {}) ForumHost.empty titledRun)).map (·.boardId) =
        some 2 := by
  decide +kernel

/-- The slug of the first board finds the second one. -/
theorem numeral_captured :
    ¬ ∀ bs cs ds, titledRun = bs ++ cs ++ ds →
        ∀ b ∈ (exec (boardStep .toy {}) ForumHost.empty bs).boards.rows,
          Resolves {} (exec (boardStep .toy {}) ForumHost.empty (bs ++ cs)) b := by
  intro hall
  obtain ⟨hrows, hfound⟩ := titledRun_facts
  have hmem : (1, "2") ∈ (exec (boardStep .toy {}) ForumHost.empty
      (titledRun.take 1)).boards.rows.map fun b => (b.boardId, b.hostedBoardId) :=
    hrows ▸ List.mem_cons_self
  obtain ⟨b, hb, hkeys⟩ := List.mem_map.1 hmem
  obtain ⟨hid, hslug⟩ := Prod.mk.inj hkeys
  have hnames : Names b "2" := .own (hslug ▸ List.mem_cons_of_mem _ List.mem_cons_self)
  have hcore := hall (titledRun.take 1) (titledRun.drop 1) [] rfl b hb "2" hnames 0
  rw [core_getBoard, List.take_append_drop] at hcore
  obtain ⟨c, hc, hsame⟩ := Option.map_eq_some_iff.1 hcore
  rw [hc, Option.map_some, Option.some.injEq] at hfound
  have hids : c.boardId = b.boardId := congrArg Prod.fst hsame
  rw [hfound, hid] at hids
  cases hids

end Ansible
