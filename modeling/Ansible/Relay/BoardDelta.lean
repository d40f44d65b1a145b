import Ansible.Relay.BoardIdentifiers
import Ansible.Relay.OpsDelta

/-!
# The delta of one board

The board of an op is part of its signed payload and no column of the log.  The page of a board is
found by a scan of the whole log in batches, which stops as soon as the page is full, and the cursor
of the page is the last row that the scan has looked at.

## Main definitions

* `OpsController.scanBoardOps` — the scan; `boardPage` — the page that is made of it.
* `OpsController.boardDelta` — the endpoint, with its access check.
* `OpsController.readBoard` — a reader who follows the cursors until there is no more.

## Main results

* `OpsController.lossless_iff` — **reading loses nothing if and only if the limit is not zero**, or
  there is nothing to read.
-/

namespace Ansible

namespace OpsController

/-- A row of the log, with its id. -/
abbrev Row := OpStore.Op × ℕ

/-! ### The scan -/

/-- `op_board_id` -/
def opBoardId (op : OpStore.Op) : Json :=
  ((decodeText op.payload).filter Json.isObj).elim .null boardIdOf

def ofBoard (boardId : String) (r : Row) : Bool := (opBoardId r.1).eqv (.str boardId)

/-- What a scan has collected, the latest row first, how far it has come, and whether the page is
full. -/
structure Scan where
  items : List Row
  cursor : ℤ
  full : Bool

/-- The scan of one batch, which stops when the page is full. -/
def scanBatch (boardId : String) (target : ℤ) : List Row → Scan → Scan
  | [], acc => acc
  | r :: rs, acc =>
    let items := if ofBoard boardId r then r :: acc.items else acc.items
    if target ≤ items.length then ⟨items, r.2, true⟩
    else scanBatch boardId target rs ⟨items, r.2, false⟩

/-- The rows above a cursor, which may be any integer. -/
def rowsAbove (s : Deployment) (cursor : ℤ) : List Row :=
  s.rows.filter fun r => decide (cursor < r.2)

/-- `scan_board_ops`, with the number of batches that it may read: the rows of the board, the cursor
behind the scan, and whether there may be more. -/
def scanBoardOps (boardId : String) (target : ℤ) (s : Deployment) :
    ℕ → ℤ → List Row → Option (List Row × ℤ × Bool)
  | 0, _, _ => none
  | fuel + 1, cursor, collected =>
    let batch := s.list cursor.toNat 500
    let scan := scanBatch boardId target batch ⟨collected, cursor, false⟩
    if scan.full then some (scan.items.reverse, scan.cursor, true)
    else if batch.length < 500 then some (scan.items.reverse, scan.cursor, false)
    else scanBoardOps boardId target s fuel scan.cursor scan.items

/-! ### The page -/

structure BoardPage where
  ops : List AppView.Op
  nextCursor : ℤ
  hasMore : Bool

inductive BoardDeltaError
  | boardNotFound
  | policy (e : BoardAccessPolicy.PolicyError)
  | capability (e : CapabilityError)
  | raised
  deriving DecidableEq, Repr

/-- `parse_int`; a value that is neither a text nor an integer has no clause. -/
def parseInt (v : Json) (default : ℤ) : Except BoardDeltaError ℤ :=
  match v with
  | .null => .ok default
  | .str s => .ok ((parseInteger s).getD default)
  | .int n => .ok n
  | _ => .error .raised

/-- `Enum.take`, which takes from the end when the amount is negative. -/
def enumTake (rs : List Row) (amount : ℤ) : List Row :=
  if 0 ≤ amount then rs.take amount.toNat else rs.drop (rs.length - amount.natAbs)

/-- The integers of the column `id` -/
def bigint (n : ℤ) : Bool := decide (-2 ^ 63 ≤ n ∧ n < 2 ^ 63)

/-- The page of a board after a cursor. -/
def boardPage (boardId : String) (now : Time) (cursor limit : ℤ) :
    Checked Deployment BoardDeltaError BoardPage := fun s =>
  if bigint cursor then
    -- a batch that is read on from is not empty, so there are fewer batches than rows
    match scanBoardOps boardId limit s (s.ops.length + 1) cursor [] with
    | none => (.error .raised, s)
    | some (rows, nextCursor, hasMore) =>
      let (attached, relay) := attachAll now (enumTake rows limit) s.relay
      (.ok { ops := attached.map fun r => served s.host r.1 r.2, nextCursor, hasMore },
        { s with relay })
  else (.error .raised, s)

/-! ### The endpoint -/

/-- `authorize_board_read`, after the requirement of the policy. -/
def authorizeBoardRead (C : HostConfig) (conn : Conn) (board : ForumHostBoard) :
    Except BoardDeltaError Unit := do
  let requirement ←
    (BoardAccessPolicy.requirementFor C.encryptedBoardsEnabled board.accessPolicy .read).mapError
      .policy
  match requirement with
  | .str "public" => .ok ()
  | _ =>
    match conn.boardCapability board.boardId "read" with
    | none => .ok ()
    | some e => .error (.capability e)

/-- One request for the delta of a board. -/
structure BoardRequest where
  now : Time
  conn : Conn

/-- The delta of a found board. -/
def boardAnswer (C : HostConfig) (req : BoardRequest) (cursor limit : Json)
    (board : Option ForumHostBoard) : Checked Deployment BoardDeltaError BoardPage :=
  match board with
  | none => .lift (.error .boardNotFound)
  | some board => do
    let _ ← .lift (authorizeBoardRead C req.conn board)
    let cursor ← .lift (parseInt cursor 0)
    let limit ← .lift (parseInt limit 100)
    boardPage board.hostedBoardId req.now cursor (min limit 500)

def boardDelta (C : HostConfig) (req : BoardRequest) (boardId : String) (cursor limit : Json) :
    Checked Deployment BoardDeltaError BoardPage := do
  let board ← PostingGate.lookup C req.now (.str boardId)
  boardAnswer C req cursor limit board

/-! ### A reader -/

inductive Reading
  | unfinished
  | refused (e : BoardDeltaError)
  | read (ops : List AppView.Op)

/-- The pages before the rest of a reading. -/
def Reading.after (ops : List AppView.Op) : Reading → Reading
  | .read rest => .read (ops ++ rest)
  | r => r

/-- A cursor as it is sent back. -/
def cursorText (cursor : ℤ) : Json := .str (String.ofList (Json.encodeInt cursor))

/-- Following the cursors for at most `n` requests, the first of which is `reqs 0`. -/
def readBoard (C : HostConfig) (boardId : String) (limit : Json) :
    (ℕ → BoardRequest) → ℕ → Json → Deployment → Reading
  | _, 0, _, _ => .unfinished
  | reqs, n + 1, cursor, s =>
    match boardDelta C (reqs 0) boardId cursor limit s with
    | (.error e, _) => .refused e
    | (.ok page, t) =>
      if page.hasMore then
        (readBoard C boardId limit (fun k => reqs (k + 1)) n (cursorText page.nextCursor) t).after
          page.ops
      else .read page.ops

/-- The rows of a board above a cursor, in the order of their ids.  Moderation hides none of them:
what is removed is served without its text. -/
def boardRows (boardId : String) (cursor : ℤ) (s : Deployment) : List Row :=
  (rowsAbove s cursor).filter (ofBoard boardId)

/-- What the reader gets is the rows of the board above the cursor, each once and in the order of
their ids. -/
def Lossless (C : HostConfig) (boardId : String) (limit : Json) (reqs : ℕ → BoardRequest)
    (cursor : Json) (s : Deployment) (hosted : String) (start : ℤ) : Prop :=
  ∃ n ops, readBoard C boardId limit reqs n cursor s = .read ops ∧
    List.Forall₂ ServedFrom (boardRows hosted start s) ops ∧
    (ops.map (·.logId)).Pairwise (· < ·)

/-! ### What a scan passes -/

/-- The id of the last row, or else the cursor before it. -/
def lastId (seen : List Row) (cursor : ℤ) : ℤ := seen.getLast?.elim cursor fun r => (r.2 : ℤ)

@[simp] theorem lastId_nil (cursor : ℤ) : lastId [] cursor = cursor := rfl

theorem lastId_cons (r : Row) (seen : List Row) (cursor : ℤ) :
    lastId (r :: seen) cursor = lastId seen r.2 := by
  rw [lastId, lastId, List.getLast?_cons]
  cases seen.getLast? with
  | none => rfl
  | some _ => rfl

theorem lastId_append (seen more : List Row) (cursor : ℤ) :
    lastId (seen ++ more) cursor = lastId more (lastId seen cursor) := by
  induction seen generalizing cursor with
  | nil => rfl
  | cons r seen ih => rw [List.cons_append, lastId_cons, lastId_cons, ih]

/-- A scan of one batch passes a prefix of it, all of it unless the page is full. -/
theorem scanBatch_passes (boardId : String) (target : ℤ) (rs : List Row) (acc : Scan)
    (hacc : acc.full = false) :
    ∃ seen rest, rs = seen ++ rest ∧
      (scanBatch boardId target rs acc).items
        = (seen.filter (ofBoard boardId)).reverse ++ acc.items ∧
      (scanBatch boardId target rs acc).cursor = lastId seen acc.cursor ∧
      ((scanBatch boardId target rs acc).full = false → rest = []) ∧
      ((scanBatch boardId target rs acc).full = true → seen ≠ []) := by
  induction rs generalizing acc with
  | nil =>
    refine ⟨[], [], rfl, rfl, rfl, fun _ => rfl, fun h => ?_⟩
    rw [scanBatch, hacc] at h
    cases h
  | cons r rs ih =>
    have hitems : (if ofBoard boardId r then r :: acc.items else acc.items)
        = ([r].filter (ofBoard boardId)).reverse ++ acc.items := by
      cases h : ofBoard boardId r <;> simp [h]
    rw [scanBatch]
    rw [hitems]
    split
    · exact ⟨[r], rs, rfl, rfl, rfl, fun h => (nomatch h), fun _ => List.cons_ne_nil r []⟩
    · obtain ⟨seen, rest, rfl, hi, hc, hrest, -⟩ := ih
        ⟨([r].filter (ofBoard boardId)).reverse ++ acc.items, r.2, false⟩ rfl
      refine ⟨r :: seen, rest, rfl, ?_, ?_, hrest, fun _ => List.cons_ne_nil r seen⟩
      · rw [hi, ← List.append_assoc, ← List.reverse_append, ← List.filter_append]
        rfl
      · rw [hc, lastId_cons]

/-- A page is never larger than its limit, and holds one op at most when that is not positive. -/
theorem length_scanBatch_le (boardId : String) (target : ℤ) (rs : List Row) (acc : Scan)
    (hacc : (acc.items.length : ℤ) < max target 1) :
    ((scanBatch boardId target rs acc).items.length : ℤ) ≤ max target 1 ∧
      ((scanBatch boardId target rs acc).full = false →
        ((scanBatch boardId target rs acc).items.length : ℤ) < max target 1) := by
  induction rs generalizing acc with
  | nil => exact ⟨hacc.le, fun _ => hacc⟩
  | cons r rs ih =>
    rw [scanBatch]
    generalize hitems : (if ofBoard boardId r then r :: acc.items else acc.items) = items
    have hlength : (items.length : ℤ) ≤ acc.items.length + 1 := by
      rw [← hitems]
      split
      · rw [List.length_cons]
        omega
      · omega
    split
    · refine ⟨?_, fun h => (nomatch h)⟩
      show (items.length : ℤ) ≤ max target 1
      omega
    · exact ih ⟨items, r.2, false⟩ (by dsimp only; omega)

/-! ### The rows above a cursor -/

theorem rowsAbove_sorted (s : Deployment) (cursor : ℤ) :
    (rowsAbove s cursor).Pairwise fun r r' => r.2 < r'.2 :=
  (rows_sorted s).sublist List.filter_sublist

theorem list_eq_take_rowsAbove (s : Deployment) (cursor : ℤ) (limit : ℕ) :
    s.list cursor.toNat limit = (rowsAbove s cursor).take limit := by
  rw [Deployment.list, rowsAbove]
  congr 1
  refine List.filter_congr fun r hr => ?_
  have hpos : 1 ≤ r.2 := (List.mem_range'_1.1 (rows_snd s ▸ List.mem_map_of_mem hr)).1
  rw [decide_eq_decide]
  omega

variable {s : Deployment} {hosted boardId : String} {C : HostConfig} {cursor limit : Json}
  {reqs : ℕ → BoardRequest} {n : ℕ} {ops : List AppView.Op}

theorem rowsAbove_lastId {cursor : ℤ} {seen rest : List Row} (h : rowsAbove s cursor = seen ++ rest)
    : rowsAbove s (lastId seen cursor) = rest := by
  rcases List.eq_nil_or_concat seen with rfl | ⟨init, last, rfl⟩
  · exact h
  rw [List.concat_eq_append] at h ⊢
  have hsorted := rowsAbove_sorted s cursor
  rw [h, List.append_assoc] at hsorted
  have hlast : cursor < last.2 := by
    have hmem : last ∈ rowsAbove s cursor := by
      rw [h]
      exact List.mem_append_left _ (List.mem_append_right _ List.mem_cons_self)
    exact of_decide_eq_true (List.mem_filter.1 hmem).2
  have habove : rowsAbove s last.2
      = (rowsAbove s cursor).filter fun r => decide ((last.2 : ℤ) < r.2) := by
    rw [rowsAbove, rowsAbove, List.filter_filter]
    refine List.filter_congr fun r _ => ?_
    rw [← Bool.decide_and, decide_eq_decide]
    omega
  obtain ⟨-, htail, hinit⟩ := List.pairwise_append.1 hsorted
  have hrest := (List.pairwise_cons.1 htail).1
  rw [lastId_append, lastId_cons, lastId_nil, habove, h, List.append_assoc, List.filter_append,
    List.singleton_append, List.filter_cons_of_neg (by simp)]
  have hnone : init.filter (fun r => decide ((last.2 : ℤ) < r.2)) = [] := by
    rw [List.filter_eq_nil_iff]
    intro r hr
    have hlt := hinit r hr last List.mem_cons_self
    rw [decide_eq_true_iff]
    omega
  have hall : rest.filter (fun r => decide ((last.2 : ℤ) < r.2)) = rest := by
    rw [List.filter_eq_self]
    intro r hr
    have hlt := hrest r hr
    rw [decide_eq_true_iff]
    omega
  rw [hnone, hall, List.nil_append]

/-- What a scan has passed of the rows above its cursor, and what it has made of that. -/
structure Scanned (boardId : String) (target : ℤ) (above : List Row) (cursor : ℤ)
    (collected : List Row) (out : List Row × ℤ × Bool) (seen rest : List Row) : Prop where
  split : above = seen ++ rest
  rows : out.1 = collected.reverse ++ seen.filter (ofBoard boardId)
  cursor : out.2.1 = lastId seen cursor
  rest_eq_nil : out.2.2 = false → rest = []
  seen_ne_nil : out.2.2 = true → seen ≠ []
  length_le : (out.1.length : ℤ) ≤ max target 1

/-- **A scan passes a prefix of the rows and keeps those of the board**; it ends, since every batch
that is read on from has moved the cursor. -/
theorem scanned (boardId : String) (target : ℤ) (s : Deployment) (fuel : ℕ) (cursor : ℤ)
    (collected : List Row) (hfuel : (rowsAbove s cursor).length < fuel)
    (hcollected : (collected.length : ℤ) < max target 1) :
    ∃ out, scanBoardOps boardId target s fuel cursor collected = some out ∧
      ∃ seen rest, Scanned boardId target (rowsAbove s cursor) cursor collected out seen rest := by
  induction fuel generalizing cursor collected with
  | zero => omega
  | succ fuel ih =>
    rw [scanBoardOps]
    rw [list_eq_take_rowsAbove]
    obtain ⟨seen, rest, hbatch, hitems, hcursor, hrest, hseen⟩ :=
      scanBatch_passes boardId target ((rowsAbove s cursor).take 500) ⟨collected, cursor, false⟩ rfl
    obtain ⟨hle, hlt⟩ :=
      length_scanBatch_le boardId target ((rowsAbove s cursor).take 500)
        ⟨collected, cursor, false⟩ hcollected
    generalize scanBatch boardId target ((rowsAbove s cursor).take 500) ⟨collected, cursor, false⟩
      = scan at hitems hcursor hrest hseen hle hlt
    have hrows : scan.items.reverse = collected.reverse ++ seen.filter (ofBoard boardId) := by
      rw [hitems, List.reverse_append, List.reverse_reverse]
    have hsplit := List.take_append_drop 500 (rowsAbove s cursor)
    rw [hbatch, List.append_assoc] at hsplit
    split
    · next hfull =>
      -- the page is full, and the rest is left for the next one
      exact ⟨_, rfl, seen, rest ++ (rowsAbove s cursor).drop 500, hsplit.symm, hrows, hcursor,
        fun h => (nomatch h), fun _ => hseen hfull, by rwa [List.length_reverse]⟩
    · next hfull =>
      obtain rfl := hrest (Bool.not_eq_true _ ▸ hfull)
      split
      · next hshort =>
        -- a short batch is the end of the log
        have hall : (rowsAbove s cursor).drop 500 = [] := by
          rw [List.length_take] at hshort
          exact List.drop_eq_nil_of_le (by omega)
        rw [hall] at hsplit
        exact ⟨_, rfl, seen, [], hsplit.symm, hrows, hcursor, fun _ => rfl, fun h => (nomatch h),
          by rwa [List.length_reverse]⟩
      · next hlong =>
        -- the scan goes on behind the last row of the batch
        have habove := rowsAbove_lastId hsplit.symm
        rw [List.nil_append] at habove
        rw [List.length_take] at hlong
        have hlength : (rowsAbove s scan.cursor).length < fuel := by
          rw [hcursor, habove, List.length_drop]
          omega
        obtain ⟨out, hout, seen', rest', hscan⟩ :=
          ih scan.cursor scan.items hlength (hlt (Bool.not_eq_true _ ▸ hfull))
        refine ⟨out, hout, seen ++ seen', rest', ?_, ?_, ?_, hscan.rest_eq_nil, ?_,
          hscan.length_le⟩
        · rw [← hsplit, List.nil_append, ← habove, List.append_assoc, ← hscan.split, hcursor]
        · rw [hscan.rows, hrows, List.filter_append, List.append_assoc]
        · rw [hscan.cursor, hcursor, lastId_append]
        · exact fun hmore => List.append_ne_nil_of_right_ne_nil _ (hscan.seen_ne_nil hmore)

/-! ### One page -/

theorem enumTake_zero (rs : List Row) : enumTake rs 0 = [] := rfl

/-- A page is served whole, unless the limit is zero. -/
theorem enumTake_eq {rs : List Row} {limit : ℤ} (hlimit : limit ≠ 0)
    (hle : (rs.length : ℤ) ≤ max limit 1) : enumTake rs limit = rs := by
  unfold enumTake
  split
  · exact List.take_of_length_le (by omega)
  · rw [Nat.sub_eq_zero_of_le (by omega), List.drop_zero]

theorem forall₂_attachAll (h : ForumHost) (now : Time) (rs : List Row) (s : Relay) :
    List.Forall₂ ServedFrom rs ((attachAll now rs s).1.map fun r => served h r.1 r.2) := by
  induction rs generalizing s with
  | nil => exact .nil
  | cons r rs ih =>
    rw [attachAll]
    exact .cons (servedFrom_served h r _) (ih _)

/-- What a page has passed of the rows above its cursor, and what it serves of that. -/
structure Paged (hosted : String) (limit : ℤ) (above : List Row) (cursor : ℤ) (page : BoardPage)
    (seen rest : List Row) : Prop where
  split : above = seen ++ rest
  ops : List.Forall₂ ServedFrom (if limit = 0 then [] else seen.filter (ofBoard hosted)) page.ops
  cursor : page.nextCursor = lastId seen cursor
  rest_eq_nil : page.hasMore = false → rest = []
  seen_ne_nil : page.hasMore = true → seen ≠ []

theorem length_rowsAbove_lt (s : Deployment) (cursor : ℤ) :
    (rowsAbove s cursor).length < s.ops.length + 1 := by
  have hle := List.length_filter_le (fun r : Row => decide (cursor < r.2)) s.rows
  rw [Deployment.rows, List.length_zipIdx] at hle
  exact Nat.lt_succ_of_le hle

variable {t : Deployment} {page : BoardPage}

theorem paged_of_boardPage {now : Time} {cursor limit : ℤ}
    (h : boardPage hosted now cursor (min limit 500) s = (.ok page, t)) :
    t.ops = s.ops ∧ t.host = s.host ∧
      ∃ seen rest, Paged hosted limit (rowsAbove s cursor) cursor page seen rest := by
  obtain ⟨out, hout, seen, rest, hscan⟩ := scanned hosted (min limit 500) s (s.ops.length + 1)
    cursor [] (length_rowsAbove_lt s cursor) (by rw [List.length_nil]; omega)
  unfold boardPage at h
  rw [hout] at h
  split at h
  · obtain ⟨hpage, rfl⟩ := Prod.mk.inj h
    cases hpage
    refine ⟨rfl, rfl, seen, rest, hscan.split, ?_, hscan.cursor, hscan.rest_eq_nil,
      hscan.seen_ne_nil⟩
    have hrows : out.1 = seen.filter (ofBoard hosted) := hscan.rows
    have hle := hscan.length_le
    rw [hrows] at hle
    have htaken : enumTake out.1 (min limit 500)
        = if limit = 0 then [] else seen.filter (ofBoard hosted) := by
      rw [hrows]
      split
      · next hzero =>
        rw [hzero]
        exact enumTake_zero _
      · exact enumTake_eq (by omega) hle
    rw [← htaken]
    exact forall₂_attachAll _ _ _ _
  · cases (Prod.mk.inj h).1

/-! ### The board of a reader -/

open ForumHost in
theorem namedBoard_core {h h' : ForumHost} (hsame : h.SameForum h') (id : String) :
    (namedBoard id h').map (·.core) = (namedBoard id h).map (·.core) := by
  have hfind : ∀ (q : ℕ × String × Json × Json → Bool),
      (h'.boards.find fun b => q b.core).map (·.core)
        = (h.boards.find fun b => q b.core).map (·.core) := by
    intro q
    have hmap : ∀ rows : List ForumHostBoard,
        (rows.find? fun b => q b.core).map (·.core) = (rows.map (·.core)).find? q := by
      intro rows
      rw [List.find?_map]
      rfl
    rw [Table.find, Table.find, hmap, hmap, hsame.boards]
  have hcanonical : ∀ i, (canonicalBoard i h').map (·.core)
    = (canonicalBoard i h).map (·.core) := by
    intro i
    rw [canonicalBoard, canonicalBoard]
    cases parsePositive i with
    | none => rfl
    | some n => exact hfind fun c => c.1 == n
  have hbytes : ∀ i, (getByBytes i h').map (·.core) = (getByBytes i h).map (·.core) :=
    fun i => hfind fun c => bytes c.2.1 == i
  have hcomposite : (getCompositeBoard (bytes id) h').map (·.core)
      = (getCompositeBoard (bytes id) h).map (·.core) := by
    rw [getCompositeBoard, getCompositeBoard]
    cases compositeSuffix (bytes id) with
    | none => rfl
    | some suffix =>
      rw [Option.bind_some, Option.bind_some, Option.map_or, Option.map_or, hcanonical, hbytes]
  rw [namedBoard, namedBoard, Option.map_or, Option.map_or, Option.map_or, Option.map_or,
    hcanonical, hbytes, hcomposite]

/-- The key of the board that an identifier names. -/
def hostedId (boardId : String) (h : ForumHost) : Option String :=
  (ForumHost.namedBoard boardId h).map (·.hostedBoardId)

theorem hostedId_eq (boardId : String) (h : ForumHost) :
    hostedId boardId h = ((ForumHost.namedBoard boardId h).map (·.core)).map (·.2.1) := by
  rw [Option.map_map]
  rfl

/-- An answered request: the page is one of the board, and the log and the board are as before. -/
theorem boardDelta_ok {req : BoardRequest} {c l : ℤ}
    (h : boardDelta C req boardId cursor limit s = (.ok page, t))
    (hboard : hostedId boardId s.host = some hosted) (hcursor : parseInt cursor 0 = .ok c)
    (hlimit : parseInt limit 100 = .ok l) :
    t.ops = s.ops ∧ hostedId boardId t.host = some hosted ∧
      ∃ seen rest, Paged hosted l (rowsAbove s c) c page seen rest := by
  obtain ⟨board, u, hlookup, h⟩ := Checked.bind_eq_ok.1 h
  obtain ⟨hfound, rfl⟩ := PostingGate.lookup_eq_ok.1 hlookup
  have hcore := ForumHost.core_getBoard C req.now boardId s.host
  rw [hfound] at hcore
  cases board with
  | none => cases (Prod.mk.inj h).1
  | some board =>
    obtain ⟨_, _, hauthorized, h⟩ := Checked.bind_eq_ok.1 h
    obtain ⟨-, rfl⟩ := Checked.lift_eq_ok.1 hauthorized
    obtain ⟨c', _, hread, h⟩ := Checked.bind_eq_ok.1 h
    obtain ⟨hc, rfl⟩ := Checked.lift_eq_ok.1 hread
    obtain ⟨l', _, hread', h⟩ := Checked.bind_eq_ok.1 h
    obtain ⟨hl, rfl⟩ := Checked.lift_eq_ok.1 hread'
    obtain rfl := Except.ok.inj (hcursor.symm.trans hc)
    obtain rfl := Except.ok.inj (hlimit.symm.trans hl)
    obtain rfl : board.hostedBoardId = hosted := by
      rw [hostedId_eq, ← hcore] at hboard
      exact Option.some.inj hboard
    obtain ⟨hops, hhost, hpaged⟩ := paged_of_boardPage h
    refine ⟨hops, ?_, hpaged⟩
    rw [hhost, hostedId_eq, namedBoard_core (ForumHost.getBoard_frame C req.now _ s.host),
      ← hostedId_eq, hboard]

/-- A request changes caches and access policies only. -/
theorem boardDelta_keeps (C : HostConfig) (req : BoardRequest) (boardId : String)
    (cursor limit : Json) :
    Checked.Keeps (fun s t : Deployment => t.ops = s.ops)
      (boardDelta C req boardId cursor limit) := by
  have hbind : ∀ {α β : Type} {x : Checked Deployment BoardDeltaError α}
      {f : α → Checked Deployment BoardDeltaError β},
      Checked.Keeps (fun s t : Deployment => t.ops = s.ops) x →
      (∀ a, Checked.Keeps (fun s t : Deployment => t.ops = s.ops) (f a)) →
      Checked.Keeps (fun s t : Deployment => t.ops = s.ops) (x >>= f) :=
    Checked.Keeps.bind fun _ _ _ hst htu => htu.trans hst
  refine hbind (fun _ => rfl) fun board => ?_
  cases board with
  | none => exact fun _ => rfl
  | some board =>
    refine hbind (fun _ => rfl) fun _ => hbind (fun _ => rfl) fun _ => hbind (fun _ => rfl)
      fun _ s => ?_
    unfold boardPage
    split
    · split <;> rfl
    · rfl

theorem exists_served_of_mem_boardPage {now : Time} {cursor limit : ℤ}
    (h : boardPage hosted now cursor limit s = (.ok page, t)) {op : AppView.Op}
    (hop : op ∈ page.ops) : ∃ r ∈ s.rows, ∃ host a, op = served host r a := by
  obtain ⟨out, hout, seen, rest, hscan⟩ := scanned hosted limit s (s.ops.length + 1)
    cursor [] (length_rowsAbove_lt s cursor) (by rw [List.length_nil]; omega)
  unfold boardPage at h
  rw [hout] at h
  split at h
  · obtain ⟨hpage, -⟩ := Prod.mk.inj h
    cases hpage
    obtain ⟨x, hx, rfl⟩ := List.mem_map.1 hop
    refine ⟨x.1, ?_, _, x.2, rfl⟩
    have hx := List.mem_map_of_mem (f := Prod.fst) hx
    rw [attachAll_rows] at hx
    have hrow : x.1 ∈ out.1 := by
      unfold enumTake at hx
      split at hx
      · exact List.mem_of_mem_take hx
      · exact List.mem_of_mem_drop hx
    rw [hscan.rows] at hrow
    have hseen := List.mem_append_left rest (List.mem_of_mem_filter hrow)
    rw [← hscan.split] at hseen
    exact List.mem_of_mem_filter hseen
  · cases (Prod.mk.inj h).1

theorem exists_served_of_mem_boardDelta {req : BoardRequest}
    (h : boardDelta C req boardId cursor limit s = (.ok page, t)) {op : AppView.Op}
    (hop : op ∈ page.ops) : ∃ r ∈ s.rows, ∃ host a, op = served host r a := by
  obtain ⟨board, u, hlookup, h⟩ := Checked.bind_eq_ok.1 h
  obtain ⟨-, rfl⟩ := PostingGate.lookup_eq_ok.1 hlookup
  cases board with
  | none => cases (Prod.mk.inj h).1
  | some board =>
    obtain ⟨_, _, hauthorized, h⟩ := Checked.bind_eq_ok.1 h
    obtain ⟨-, rfl⟩ := Checked.lift_eq_ok.1 hauthorized
    obtain ⟨c, _, hread, h⟩ := Checked.bind_eq_ok.1 h
    obtain ⟨-, rfl⟩ := Checked.lift_eq_ok.1 hread
    obtain ⟨l, _, hread', h⟩ := Checked.bind_eq_ok.1 h
    obtain ⟨-, rfl⟩ := Checked.lift_eq_ok.1 hread'
    exact exists_served_of_mem_boardPage h hop

/-! ### All pages -/

theorem parseInt_cursorText (n : ℕ) : parseInt (cursorText n) 0 = .ok (n : ℤ) := by
  show Except.ok ((parseInteger (String.ofList (Nat.toDigits 10 n))).getD 0) = _
  rw [parseInteger_toDigits]
  rfl

theorem exists_lastId {seen : List Row} (h : seen ≠ []) (cursor : ℤ) :
    ∃ n : ℕ, lastId seen cursor = n := by
  refine ⟨(seen.getLast h).2, ?_⟩
  rw [lastId, List.getLast?_eq_some_getLast h]
  rfl

theorem readBoard_succ (h : readBoard C boardId limit reqs n cursor s ≠ .unfinished) :
    readBoard C boardId limit reqs (n + 1) cursor s
      = readBoard C boardId limit reqs n cursor s := by
  induction n generalizing reqs cursor s with
  | zero => exact absurd rfl h
  | succ n ih =>
    rw [readBoard] at h
    rw [readBoard, readBoard]
    cases hpage : boardDelta C (reqs 0) boardId cursor limit s with
    | mk r t =>
      rw [hpage] at h
      cases r with
      | error e => rfl
      | ok page =>
        dsimp only at h ⊢
        cases hmore : page.hasMore with
        | false => rfl
        | true =>
          rw [hmore, if_pos rfl] at h
          rw [if_pos rfl, if_pos rfl, ih]
          intro hrest
          rw [hrest] at h
          exact h rfl

theorem readBoard_of_le {m : ℕ} (h : readBoard C boardId limit reqs n cursor s ≠ .unfinished)
    (hle : n ≤ m) :
    readBoard C boardId limit reqs m cursor s = readBoard C boardId limit reqs n cursor s := by
  induction m, hle using Nat.le_induction with
  | base => rfl
  | succ m _ ih => rw [readBoard_succ (ih ▸ h), ih]

theorem readBoard_unique {m : ℕ} {r r' : Reading}
    (hn : readBoard C boardId limit reqs n cursor s = r) (hr : r ≠ .unfinished)
    (hm : readBoard C boardId limit reqs m cursor s = r') (hr' : r' ≠ .unfinished) : r = r' := by
  rw [← hn] at hr ⊢
  rw [← hm] at hr' ⊢
  rcases le_total n m with hle | hle
  · exact (readBoard_of_le hr hle).symm
  · exact readBoard_of_le hr' hle

/-- **A reader comes to an end and has the rows of the board, or nothing with a limit of zero.** -/
theorem readBoard_reads {c l : ℤ} (hboard : hostedId boardId s.host = some hosted)
    (hcursor : parseInt cursor 0 = .ok c) (hlimit : parseInt limit 100 = .ok l)
    (haccept : ∀ n e, readBoard C boardId limit reqs n cursor s ≠ .refused e) :
    ∃ n ops, readBoard C boardId limit reqs n cursor s = .read ops ∧
      List.Forall₂ ServedFrom (if l = 0 then [] else boardRows hosted c s) ops := by
  -- each page that has more behind it has passed a row
  generalize hlength : (rowsAbove s c).length = m
  induction m using Nat.strong_induction_on generalizing reqs cursor s c with
  | _ m ih =>
    cases hpage : boardDelta C (reqs 0) boardId cursor limit s with
    | mk r t =>
      cases r with
      | error e =>
        refine absurd ?_ (haccept 1 e)
        rw [readBoard, hpage]
      | ok page =>
        obtain ⟨hops, hboard', seen, rest, hpaged⟩ := boardDelta_ok hpage hboard hcursor hlimit
        have hread : ∀ n, readBoard C boardId limit reqs (n + 1) cursor s =
            if page.hasMore then (readBoard C boardId limit (fun k => reqs (k + 1)) n
              (cursorText page.nextCursor) t).after page.ops else .read page.ops := by
          intro n
          rw [readBoard, hpage]
        cases hmore : page.hasMore with
        | false =>
          obtain rfl := hpaged.rest_eq_nil hmore
          refine ⟨1, page.ops, ?_, ?_⟩
          · rw [hread, hmore, if_neg (by decide)]
          · have hsplit := hpaged.split
            rw [List.append_nil] at hsplit
            rw [boardRows, hsplit]
            exact hpaged.ops
        | true =>
          obtain ⟨k, hk⟩ := exists_lastId (hpaged.seen_ne_nil hmore) c
          have habove : rowsAbove t k = rest := by
            have hrest := rowsAbove_lastId hpaged.split
            rw [hk] at hrest
            rwa [rowsAbove, Deployment.rows, hops]
          have hshorter : (rowsAbove t k).length < m := by
            have hpos := List.length_pos_iff.2 (hpaged.seen_ne_nil hmore)
            rw [habove, ← hlength, hpaged.split, List.length_append]
            omega
          have hnext : parseInt (cursorText page.nextCursor) 0 = .ok (k : ℤ) := by
            rw [hpaged.cursor, hk, parseInt_cursorText]
          have haccept' : ∀ n e, readBoard C boardId limit (fun k => reqs (k + 1)) n
              (cursorText page.nextCursor) t ≠ .refused e := by
            intro n e hrefused
            refine haccept (n + 1) e ?_
            rw [hread, hmore, if_pos rfl, hrefused]
            rfl
          obtain ⟨n, ops, hrest, hserved⟩ := ih _ hshorter hboard' hnext haccept' rfl
          refine ⟨n + 1, page.ops ++ ops, ?_, ?_⟩
          · rw [hread, hmore, if_pos rfl, hrest]
            rfl
          · have hboth := List.rel_append hpaged.ops hserved
            rw [boardRows, habove] at hboth
            rw [boardRows, hpaged.split, List.filter_append]
            split
            · next hzero =>
              rw [if_pos hzero, if_pos hzero] at hboth
              exact hboth
            · next hzero =>
              rw [if_neg hzero, if_neg hzero] at hboth
              exact hboth

theorem map_logId_of_served {rows : List Row} (h : List.Forall₂ ServedFrom rows ops) :
    ops.map (·.logId) = rows.map fun r => (r.2 : ℤ) := by
  induction h with
  | nil => rfl
  | cons hserved _ ih => rw [List.map_cons, List.map_cons, hserved.logId, ih]

theorem sorted_of_served {start : ℤ} (h : List.Forall₂ ServedFrom (boardRows hosted start s) ops) :
    (ops.map (·.logId)).Pairwise (· < ·) := by
  rw [map_logId_of_served h, List.pairwise_map]
  exact ((rowsAbove_sorted s start).sublist List.filter_sublist).imp Int.ofNat_lt.2

/-- **A reader of the delta of a board loses nothing if and only if the limit is not zero**, or
there is nothing to read. -/
theorem lossless_iff {C : HostConfig} {boardId hosted : String} {limit cursor : Json}
    {reqs : ℕ → BoardRequest} {s : Deployment} {c l : ℤ}
    (hboard : hostedId boardId s.host = some hosted) (hcursor : parseInt cursor 0 = .ok c)
    (hlimit : parseInt limit 100 = .ok l)
    (haccept : ∀ n e, readBoard C boardId limit reqs n cursor s ≠ .refused e) :
    Lossless C boardId limit reqs cursor s hosted c ↔ l ≠ 0 ∨ boardRows hosted c s = [] := by
  obtain ⟨n, ops, hread, hserved⟩ := readBoard_reads hboard hcursor hlimit haccept
  constructor
  · rintro ⟨m, ops', hread', hserved', -⟩
    by_cases hzero : l = 0
    · right
      rw [if_pos hzero] at hserved
      obtain rfl := List.forall₂_nil_left_iff.1 hserved
      obtain rfl := Reading.read.inj (readBoard_unique hread' nofun hread nofun)
      exact List.forall₂_nil_right_iff.1 hserved'
    · exact .inl hzero
  · intro hcond
    have hrows : (if l = 0 then [] else boardRows hosted c s) = boardRows hosted c s := by
      split
      · next hzero => exact (hcond.resolve_left fun h => h hzero).symm
      · rfl
    rw [hrows] at hserved
    exact ⟨n, ops, hread, hserved, sorted_of_served hserved⟩

/-! ### A board with one thread -/

/-- The log holds one op, the thread of the board `alpha`. -/
def toyBoards : Deployment :=
  { Deployment.empty with host := Moderation.toyHost, ops := Moderation.toyOps }

/-- Anyone reads the board. -/
def toyReader : ℕ → BoardRequest := fun _ => ⟨0, .plain⟩

def Reading.opIds : Reading → Option (List String)
  | .read ops => some (ops.map (·.opId))
  | _ => none

theorem read_of_opIds {r : Reading} {ids : List String} (h : r.opIds = some ids) :
    ∃ ops, r = .read ops ∧ ops.map (·.opId) = ids := by
  cases r with
  | read ops => exact ⟨ops, rfl, Option.some.inj h⟩
  | unfinished => cases h
  | refused e => cases h

theorem not_refused_of_read (h : readBoard C boardId limit reqs n cursor s = .read ops) (m : ℕ)
    (e : BoardDeltaError) : readBoard C boardId limit reqs m cursor s ≠ .refused e := by
  intro hrefused
  cases readBoard_unique h nofun hrefused nofun

theorem toyBoards_read :
    (readBoard {} "alpha" (.str "0") toyReader 2 (.str "0") toyBoards).opIds = some [] ∧
      (readBoard {} "alpha" (.str "1") toyReader 2 (.str "0") toyBoards).opIds = some ["op-1"] ∧
      hostedId "alpha" toyBoards.host = some "alpha" ∧
      (boardRows "alpha" 0 toyBoards).map (·.1.opId) = ["op-1"] := by
  decide +kernel

theorem lossless_iff_toy : Lossless {} "alpha" (.str "1") toyReader (.str "0") toyBoards "alpha" 0 ↔
    (1 : ℤ) ≠ 0 ∨ boardRows "alpha" 0 toyBoards = [] := by
  obtain ⟨ops, hread, -⟩ := read_of_opIds toyBoards_read.2.1
  exact lossless_iff toyBoards_read.2.2.1 rfl rfl (not_refused_of_read hread)

/-- With a limit of zero the cursors pass the thread, and no page holds it. -/
theorem zero_limit_loses :
    (∀ n e, readBoard {} "alpha" (.str "0") toyReader n (.str "0") toyBoards ≠ .refused e) ∧
      ¬ Lossless {} "alpha" (.str "0") toyReader (.str "0") toyBoards "alpha" 0 := by
  obtain ⟨ops, hread, hids⟩ := read_of_opIds toyBoards_read.1
  refine ⟨not_refused_of_read hread, ?_⟩
  rintro ⟨n, ops', hread', hserved, -⟩
  obtain rfl := Reading.read.inj (readBoard_unique hread nofun hread' nofun)
  obtain rfl := List.map_eq_nil_iff.1 hids
  have hrows := toyBoards_read.2.2.2
  rw [List.forall₂_nil_right_iff.1 hserved] at hrows
  cases hrows

end OpsController

end Ansible
