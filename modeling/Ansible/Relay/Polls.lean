import Ansible.Relay.OriginalAuthor

/-!
# Polls

A thread may carry a poll.  A vote is stored under a digest of its poll and of the DID that casts
it, and a unique index keeps the digests of a poll apart.  The options are those of the create op
of the thread, in its order, each with the number of the votes that name its identifier.

## Main definitions

* `Polls.pollFor` — the poll of a thread, on the board that the thread names.
* `Polls.castVote`, `Polls.results` — a vote and the tallies.
* `Polls.PollSystem`, `pollStep` — the relay, with who cast which vote, and what happens to it.

## Main results

* `Polls.oneVote_iff` — **every state of a run counts every identity once exactly when every step
  is permitted.**
-/

namespace Ansible

namespace Polls

/-! ### The poll of a thread -/

structure PollOption where
  id : String
  label : String
  deriving DecidableEq, Repr

structure Poll where
  closesAt : Json
  options : List PollOption

def readOption (option : Json) : Option PollOption :=
  match option.get? "id", option.get? "label" with
  | some (.str id), some (.str label) => if id ≠ "" ∧ label ≠ "" then some ⟨id, label⟩ else none
  | _, _ => none

/-- A poll is valid when it can be read: two to twelve options, whose identifiers may repeat. -/
def readPoll (poll : Json) : Option Poll :=
  match poll.get? "options" with
  | some (.arr options) =>
    if 2 ≤ options.length ∧ options.length ≤ 12 then
      (options.mapM readOption).map fun options => ⟨poll.fetch "closes_at", options⟩
    else none
  | _ => none

/-- `decode_payload`: what is base 64 is not read as JSON. -/
def decodePoll (payload : String) : Option Json :=
  match decode64 (bytes payload) with
  | some decoded => Json.decodeBytes decoded
  | none => Json.decode (chars payload)

/-- The document of the thread that the poll is part of. -/
def threadOf (ops : List OpStore.Op) (pollId : String) : Option Json :=
  if pollId = "" then none
  else (OpStore.createOp ops "thread" pollId).bind fun op => decodePoll op.payload

def belongsToBoard (h : ForumHost) (threadBoardId : Json) (board : ForumHostBoard) : Bool :=
  match threadBoardId with
  | .str id => (h.namedBoard id).any (·.boardId == board.boardId)
  | _ => false

/-- The poll of the thread, whatever its board. -/
def threadPoll (ops : List OpStore.Op) (pollId : String) : Option Poll :=
  (threadOf ops pollId).bind fun thread => readPoll (thread.fetch "poll")

def pollFor (s : Deployment) (board : ForumHostBoard) (pollId : String) : Option Poll :=
  (threadOf s.ops pollId).bind fun thread =>
    if belongsToBoard s.host ((thread.fetch "boardId").orElse (thread.fetch "board_id")) board then
      readPoll (thread.fetch "poll")
    else none

variable {board : ForumHostBoard} {pollId : String} {poll : Poll} {P : Platform}

theorem threadPoll_of_pollFor {s : Deployment} (h : pollFor s board pollId = some poll) :
    threadPoll s.ops pollId = some poll := by
  obtain ⟨thread, hthread, hpoll⟩ := Option.bind_eq_some_iff.1 h
  split at hpoll
  · exact Option.bind_eq_some_iff.2 ⟨thread, hthread, hpoll⟩
  · cases hpoll

theorem threadPoll_append {ops : List OpStore.Op} (h : threadPoll ops pollId = some poll)
    (op : OpStore.Op) : threadPoll (ops ++ [op]) pollId = some poll := by
  obtain ⟨thread, hthread, hpoll⟩ := Option.bind_eq_some_iff.1 h
  refine Option.bind_eq_some_iff.2 ⟨thread, ?_, hpoll⟩
  unfold threadOf at hthread ⊢
  split at hthread
  · cases hthread
  next hne =>
  obtain ⟨create, hcreate, hdecode⟩ := Option.bind_eq_some_iff.1 hthread
  rw [if_neg hne, OpStore.createOp_append_of_some hcreate, Option.bind_some]
  exact hdecode

/-! ### Votes -/

/-- A row of `forum_host_poll_votes`. -/
structure PollVote where
  hostedBoardId : String
  pollId : String
  optionId : String
  voterHash : String
  deriving DecidableEq, Repr

namespace PollVote

def isOf (hostedBoardId pollId : String) (v : PollVote) : Bool :=
  v.hostedBoardId == hostedBoardId && v.pollId == pollId

/-- The columns of the unique index. -/
def key (v : PollVote) : String × String × String := (v.hostedBoardId, v.pollId, v.voterHash)

theorem isOf_iff {hostedBoardId : String} {v : PollVote} :
    v.isOf hostedBoardId pollId = true ↔ v.hostedBoardId = hostedBoardId ∧ v.pollId = pollId := by
  rw [isOf, Bool.and_eq_true, beq_iff_eq, beq_iff_eq]

end PollVote

abbrev VoteTable := Table PollVote (UniqueOn PollVote.key fun _ => true)

def voterHash (P : Platform) (boardId pollId did : String) : String :=
  String.ofList (encode16 (P.sha256 (bytes ("poll-v1:" ++ boardId ++ ":" ++ pollId ++ ":" ++ did))))

inductive PollError
  | pollNotFound
  | pollClosed
  | invalidPollOption
  | alreadyVoted
  deriving DecidableEq, Repr

def isOpen (now : Time) (poll : Poll) : Bool :=
  match poll.closesAt with
  | .str closesAt => (DateTime.fromIso8601 closesAt).any fun t => decide (now < t.1)
  | _ => true

def validOption (poll : Poll) (optionId : Json) : Option String :=
  optionId.str?.filter fun id => poll.options.any (·.id == id)

/-- The poll with the votes for each of its options. -/
structure PollResults where
  pollId : String
  options : List (PollOption × ℕ)

def tally (votes : List PollVote) (hostedBoardId pollId optionId : String) : ℕ :=
  votes.countP fun v => v.isOf hostedBoardId pollId && v.optionId == optionId

def resultsOf (votes : List PollVote) (board : ForumHostBoard) (pollId : String) (poll : Poll) :
    PollResults where
  pollId := pollId
  options := poll.options.map fun option =>
    (option, tally votes board.hostedBoardId pollId option.id)

/-! ### The system -/

/-- Who cast a vote, which the relay does not store. -/
structure Ballot where
  did : String
  vote : PollVote

structure PollSystem extends Deployment where
  votes : VoteTable
  ballots : List Ballot

namespace PollSystem

def empty : PollSystem where
  toDeployment := Deployment.empty
  votes := ⟨[], by decide⟩
  ballots := []

/-- The votes of a poll, with their voters. -/
def ballotsOf (s : PollSystem) (hostedBoardId pollId : String) : List Ballot :=
  s.ballots.filter (·.vote.isOf hostedBoardId pollId)

end PollSystem

def results (s : PollSystem) (board : ForumHostBoard) (pollId : String) : Option PollResults :=
  (pollFor s.toDeployment board pollId).map (resultsOf s.votes.rows board pollId)

/-- The checks of a vote before it is stored; `fits` are the lengths that the changeset and the
columns allow. -/
def checkVote (fits : String → Bool) (now : Time) (board : ForumHostBoard) (pollId : String)
    (optionId : Json) (s : Deployment) : Except PollError (Poll × String) :=
  match pollFor s board pollId with
  | none => .error .pollNotFound
  | some poll =>
    if isOpen now poll then
      match validOption poll optionId with
      | none => .error .invalidPollOption
      | some option =>
        if fits pollId && fits option then .ok (poll, option) else .error .alreadyVoted
    else .error .pollClosed

def castVote (P : Platform) (fits : String → Bool) (now : Time) (board : ForumHostBoard)
    (pollId : String) (optionId : Json) (did : String) : Checked PollSystem PollError PollResults :=
  fun s =>
    match checkVote fits now board pollId optionId s.toDeployment with
    | .error e => (.error e, s)
    | .ok (poll, option) =>
      let vote : PollVote :=
        { hostedBoardId := board.hostedBoardId, pollId, optionId := option,
          voterHash := voterHash P board.hostedBoardId pollId did }
      match s.votes.insert vote with
      | none => (.error .alreadyVoted, s)
      | some votes =>
        (.ok (resultsOf votes.rows board pollId poll),
          { s with votes, ballots := s.ballots ++ [⟨did, vote⟩] })

/-- What happens to the relay: calls of the identity endpoints, whatever changes the boards, ops
that are appended, and votes. -/
inductive PollEvent
  | identity (act : IdentityAction)
  | host (h : ForumHost)
  | append (op : OpStore.Op)
  | vote (now : Time) (board : ForumHostBoard) (pollId : String) (optionId : Json) (did : String)

def pollStep (V : VpEnv) (fits : String → Bool) (s : PollSystem) : PollEvent → PollSystem
  | .identity act => { s with relay := identityStep V s.relay act }
  | .host host => { s with host }
  | .append op => { s with ops := s.ops ++ [op] }
  | .vote now board pollId optionId did =>
    (castVote V.toPlatform fits now board pollId optionId did s).2

/-! ### Counting -/

/-- **Counting by options and counting by votes.** -/
theorem sum_count_eq (ids votes : List String) :
    (ids.map fun id => votes.count id).sum = (votes.map fun vote => ids.count vote).sum := by
  induction votes with
  | nil => simp
  | cons vote votes ih =>
    rw [List.map_cons, List.sum_cons, ← ih]
    clear ih
    induction ids with
    | nil => simp
    | cons id ids ih =>
      simp only [List.map_cons, List.sum_cons, List.count_cons, beq_iff_eq] at ih ⊢
      rw [ih]
      by_cases hid : id = vote
      · subst hid
        simp only [if_true]
        omega
      · rw [if_neg hid, if_neg (Ne.symm hid)]
        omega

/-- The identifiers that the votes of a poll name. -/
def named (votes : List PollVote) (hostedBoardId pollId : String) : List String :=
  (votes.filter (·.isOf hostedBoardId pollId)).map (·.optionId)

theorem tally_eq_count (votes : List PollVote) (hostedBoardId pollId id : String) :
    tally votes hostedBoardId pollId id = (named votes hostedBoardId pollId).count id := by
  rw [tally, named, List.count, List.countP_map, List.countP_filter]
  refine List.countP_congr fun v _ => ?_
  simp only [Function.comp_apply, Bool.and_comm]

/-- The sum of the tallies counts every vote as often as its identifier occurs. -/
theorem sum_resultsOf (votes : List PollVote) (board : ForumHostBoard) (pollId : String)
    (poll : Poll) : ((resultsOf votes board pollId poll).options.map (·.2)).sum =
      ((named votes board.hostedBoardId pollId).map
        fun id => (poll.options.map (·.id)).count id).sum := by
  rw [resultsOf, List.map_map, ← sum_count_eq, List.map_map]
  congr 1
  refine List.map_congr_left fun option _ => ?_
  exact tally_eq_count ..

/-! ### What is stored -/

/-- The stored votes are those that were cast, under the digests of their DIDs and for options of
their polls; the pairs of migrated DIDs are well formed. -/
structure Recorded (P : Platform) (s : PollSystem) : Prop where
  rows : s.votes.rows = s.ballots.map (·.vote)
  hashed : ∀ b ∈ s.ballots,
    b.vote.voterHash = voterHash P b.vote.hostedBoardId b.vote.pollId b.did
  polled : ∀ b ∈ s.ballots, ∃ poll, threadPoll s.ops b.vote.pollId = some poll ∧
    ∃ option ∈ poll.options, option.id = b.vote.optionId
  formed : s.relay.PairsFormed

/-- A vote that passes its checks and is stored. -/
structure Stored (P : Platform) (fits : String → Bool) (now : Time) (board : ForumHostBoard)
    (pollId : String) (optionId : Json) (did : String) (s : PollSystem) (poll : Poll)
    (vote : PollVote) (votes : VoteTable) : Prop where
  checked : checkVote fits now board pollId optionId s.toDeployment = .ok (poll, vote.optionId)
  isOf : vote.hostedBoardId = board.hostedBoardId ∧ vote.pollId = pollId
  hash : vote.voterHash = voterHash P board.hostedBoardId pollId did
  inserted : s.votes.insert vote = some votes

/-- **A vote is stored, or changes nothing.** -/
theorem castVote_cases (P : Platform) (fits : String → Bool) (now : Time) (board : ForumHostBoard)
    (pollId : String) (optionId : Json) (did : String) (s : PollSystem) :
    (∃ poll vote votes, Stored P fits now board pollId optionId did s poll vote votes ∧
      (castVote P fits now board pollId optionId did s).2
        = { s with votes, ballots := s.ballots ++ [⟨did, vote⟩] }) ∨
    (castVote P fits now board pollId optionId did s).2 = s := by
  unfold castVote
  split
  · exact .inr rfl
  next poll option hcheck =>
  dsimp only
  split
  · exact .inr rfl
  next votes hinsert =>
  exact .inl ⟨poll, _, votes, ⟨hcheck, ⟨rfl, rfl⟩, rfl, hinsert⟩, rfl⟩

theorem checkVote_eq_ok {fits : String → Bool} {now : Time} {optionId : Json} {s : Deployment}
    {id : String} (h : checkVote fits now board pollId optionId s = .ok (poll, id)) :
    pollFor s board pollId = some poll ∧ ∃ option ∈ poll.options, option.id = id := by
  unfold checkVote at h
  split at h
  · cases h
  next found hfound =>
  split at h
  swap
  · cases h
  split at h
  · cases h
  next option hoption =>
  split at h
  swap
  · cases h
  cases h
  obtain ⟨-, hany⟩ := Option.filter_eq_some_iff.1 hoption
  obtain ⟨o, ho, heq⟩ := List.any_eq_true.1 hany
  exact ⟨hfound, o, ho, beq_iff_eq.1 heq⟩

theorem recorded_empty (P : Platform) : Recorded P .empty where
  rows := rfl
  hashed _ h := absurd h List.not_mem_nil
  polled _ h := absurd h List.not_mem_nil
  formed _ h := absurd h List.not_mem_nil

/-- **What is stored is what was cast**, in every state. -/
theorem recorded_step (V : VpEnv) (fits : String → Bool) {s : PollSystem}
    (h : Recorded V.toPlatform s) (e : PollEvent) :
    Recorded V.toPlatform (pollStep V fits s e) := by
  cases e with
  | identity act => exact ⟨h.rows, h.hashed, h.polled, h.formed.step V act⟩
  | host host => exact ⟨h.rows, h.hashed, h.polled, h.formed⟩
  | append op =>
    refine ⟨h.rows, h.hashed, fun b hb => ?_, h.formed⟩
    obtain ⟨poll, hpoll, hoption⟩ := h.polled b hb
    exact ⟨poll, threadPoll_append hpoll op, hoption⟩
  | vote now board pollId optionId did =>
    dsimp only [pollStep]
    rcases castVote_cases V.toPlatform fits now board pollId optionId did s with
      ⟨poll, vote, votes, hstored, heq⟩ | heq
    swap
    · rw [heq]
      exact h
    rw [heq]
    obtain ⟨hpoll, hoption⟩ := checkVote_eq_ok hstored.checked
    refine ⟨?_, fun b hb => ?_, fun b hb => ?_, h.formed⟩
    · dsimp only
      rw [Table.rows_of_commit hstored.inserted, h.rows, List.map_append, List.map_singleton]
    · rcases List.mem_append.1 hb with hb | hb
      · exact h.hashed b hb
      · rw [List.mem_singleton.1 hb]
        dsimp only
        rw [hstored.hash, hstored.isOf.1, hstored.isOf.2]
    · rcases List.mem_append.1 hb with hb | hb
      · exact h.polled b hb
      · rw [List.mem_singleton.1 hb]
        dsimp only
        rw [hstored.isOf.2]
        exact ⟨poll, threadPoll_of_pollFor hpoll, hoption⟩

/-! ### One identity, one vote -/

/-- The identities that voted for an option of a poll. -/
def votersFor (s : PollSystem) (hostedBoardId pollId optionId : String) : List String :=
  (((s.ballotsOf hostedBoardId pollId).filter (·.vote.optionId == optionId)).map
    fun b => s.relay.canonicalDid b.did).dedup

/-- No identity has two votes of a poll. -/
def Once (s : PollSystem) : Prop :=
  ∀ hostedBoardId pollId,
    ((s.ballotsOf hostedBoardId pollId).map fun b => s.relay.canonicalDid b.did).Nodup

/-- Every identity counts once, every tally is the number of the identities that voted for the
option, and the tallies of a poll sum to the number of its votes. -/
structure OneVote (s : PollSystem) : Prop where
  once : Once s
  tallies : ∀ board pollId r, results s board pollId = some r →
    ∀ o ∈ r.options, o.2 = (votersFor s board.hostedBoardId pollId o.1.id).length
  sums : ∀ board pollId r, results s board pollId = some r →
    (r.options.map (·.2)).sum = s.votes.rows.countP (·.isOf board.hostedBoardId pollId)

/-- Both DIDs of a pair are voters of one poll. -/
def BothVoted (s : PollSystem) (m : DidElixMigration) : Prop :=
  ∃ b ∈ s.ballots, ∃ b' ∈ s.ballots, b.vote.isOf b'.vote.hostedBoardId b'.vote.pollId = true ∧
    b.did = m.legacyDid ∧ b'.did = m.v1Did

/-- The pair of a migration is not one of two voters of a poll.  A vote that passes the checks of
the relay, the index included, is not one of an identity that has voted, and only one option of
the poll has the identifier that it names. -/
def Permitted (V : VpEnv) (fits : String → Bool) (s : PollSystem) : PollEvent → Prop
  | .identity act => ∀ m, pairOf V s.relay act = some m → ¬ BothVoted s m
  | .host _ | .append _ => True
  | .vote now board pollId optionId did =>
    ∀ poll id, checkVote fits now board pollId optionId s.toDeployment = .ok (poll, id) →
      (∀ v ∈ s.votes.rows, v.isOf board.hostedBoardId pollId = true →
        v.voterHash ≠ voterHash V.toPlatform board.hostedBoardId pollId did) →
      (∀ b ∈ s.ballotsOf board.hostedBoardId pollId,
        s.relay.canonicalDid b.did ≠ s.relay.canonicalDid did) ∧
      (poll.options.map (·.id)).count id = 1

/-- Every vote names an identifier that one option of its poll has. -/
def Single (s : PollSystem) : Prop :=
  ∀ b ∈ s.ballots, ∀ poll, threadPoll s.ops b.vote.pollId = some poll →
    (poll.options.map (·.id)).count b.vote.optionId = 1

/-- The unique index keeps the DIDs of the voters of a poll apart. -/
theorem Recorded.eq_of_did_eq {s : PollSystem} (h : Recorded P s) {b b' : Ballot}
    (hb : b ∈ s.ballots) (hb' : b' ∈ s.ballots)
    (hof : b.vote.isOf b'.vote.hostedBoardId b'.vote.pollId = true) (hdid : b.did = b'.did) :
    b.vote = b'.vote := by
  obtain ⟨hboard, hpoll⟩ := PollVote.isOf_iff.1 hof
  refine s.votes.valid.eq ?_ ?_ rfl rfl ?_
  · exact h.rows ▸ List.mem_map_of_mem hb
  · exact h.rows ▸ List.mem_map_of_mem hb'
  · rw [PollVote.key, PollVote.key, h.hashed b hb, h.hashed b' hb', hboard, hpoll, hdid]

theorem Recorded.nodup_votes {s : PollSystem} (h : Recorded P s) :
    (s.ballots.map (·.vote)).Nodup := h.rows ▸ s.votes.valid.nodup

theorem Recorded.eq_of_vote_eq {s : PollSystem} (h : Recorded P s) {b b' : Ballot}
    (hb : b ∈ s.ballots) (hb' : b' ∈ s.ballots) (heq : b.vote = b'.vote) : b = b' :=
  List.inj_on_of_nodup_map h.nodup_votes hb hb' heq

theorem mem_ballotsOf {s : PollSystem} {hostedBoardId : String} {b : Ballot} :
    b ∈ s.ballotsOf hostedBoardId pollId ↔
      b ∈ s.ballots ∧ b.vote.isOf hostedBoardId pollId = true := List.mem_filter

/-- Whether two voters of a poll are one identity. -/
def Joined (s : PollSystem) (r : Relay) : Prop :=
  ∃ b ∈ s.ballots, ∃ b' ∈ s.ballots, b.vote.isOf b'.vote.hostedBoardId b'.vote.pollId = true ∧
    b.did ≠ b'.did ∧ r.canonicalDid b.did = r.canonicalDid b'.did

theorem joined_iff {s : PollSystem} {r : Relay} (hr : r.PairsFormed) :
    Joined s r ↔ ∃ m ∈ r.didElixMigrations.rows, BothVoted s m := by
  constructor
  · rintro ⟨b, hb, b', hb', hof, hne, heq⟩
    obtain hdid | ⟨m, hm, ⟨hl, hv⟩ | ⟨hv, hl⟩⟩ := hr.apart.sides_of_canonicalDid_eq heq
    · exact absurd hdid hne
    · exact ⟨m, hm, b, hb, b', hb', hof, hl, hv⟩
    · obtain ⟨hboard, hpoll⟩ := PollVote.isOf_iff.1 hof
      exact ⟨m, hm, b', hb', b, hb, PollVote.isOf_iff.2 ⟨hboard.symm, hpoll.symm⟩, hl, hv⟩
  · rintro ⟨m, hm, b, hb, b', hb', hof, hl, hv⟩
    refine ⟨b, hb, b', hb', hof, ?_, ?_⟩
    · rw [hl, hv]
      exact hr.apart m hm m hm
    · rw [hl, hv, hr.apart.canonicalDid_legacy hm, hr.apart.canonicalDid_v1 hm]

/-- No identity has two votes of a poll exactly when no two voters of one are joined. -/
theorem once_iff {s : PollSystem} (h : Recorded P s) : Once s ↔ ¬ Joined s s.relay := by
  constructor
  · rintro honce ⟨b, hb, b', hb', hof, hne, heq⟩
    have hbs := mem_ballotsOf.2 ⟨hb, hof⟩
    have hbs' := mem_ballotsOf.2 ⟨hb', PollVote.isOf_iff.2 ⟨rfl, rfl⟩⟩
    exact hne (congrArg Ballot.did (List.inj_on_of_nodup_map (honce _ _) hbs hbs' heq))
  · intro hjoined hostedBoardId pollId
    have hnodup : (s.ballotsOf hostedBoardId pollId).Nodup :=
      (List.filter_sublist.map _).nodup h.nodup_votes |>.of_map
    refine (List.nodup_map_iff_inj_on hnodup).2 fun b hb b' hb' heq => ?_
    obtain ⟨hb, hof⟩ := mem_ballotsOf.1 hb
    obtain ⟨hb', hof'⟩ := mem_ballotsOf.1 hb'
    have hsame : b.vote.isOf b'.vote.hostedBoardId b'.vote.pollId = true := by
      obtain ⟨hboard, hpoll⟩ := PollVote.isOf_iff.1 hof'
      rw [hboard, hpoll]
      exact hof
    by_contra hne
    refine hjoined ⟨b, hb, b', hb', hsame, fun hdid => hne ?_, heq⟩
    exact h.eq_of_vote_eq hb hb' (h.eq_of_did_eq hb hb' hsame hdid)

theorem Recorded.filter_rows {s : PollSystem} (h : Recorded P s) (hostedBoardId pollId : String) :
    s.votes.rows.filter (·.isOf hostedBoardId pollId) =
      (s.ballotsOf hostedBoardId pollId).map (·.vote) := by
  rw [h.rows, List.filter_map]
  rfl

theorem tallies_of_once {s : PollSystem} (h : Recorded P s) (honce : Once s)
    (hostedBoardId pollId optionId : String) : tally s.votes.rows hostedBoardId pollId optionId =
      (votersFor s hostedBoardId pollId optionId).length := by
  have hnodup : (((s.ballotsOf hostedBoardId pollId).filter (·.vote.optionId == optionId)).map
      fun b => s.relay.canonicalDid b.did).Nodup :=
    (List.filter_sublist.map _).nodup (honce hostedBoardId pollId)
  rw [votersFor, hnodup.dedup, List.length_map, tally_eq_count, named, h.filter_rows,
    List.map_map, List.count, List.countP_map, List.countP_eq_length_filter]
  rfl

/-- The sum of natural numbers that are at least one is the length exactly when all are one. -/
theorem sum_eq_length_iff {l : List ℕ} (h : ∀ n ∈ l, 1 ≤ n) :
    l.sum = l.length ↔ ∀ n ∈ l, n = 1 := by
  induction l with
  | nil => simp
  | cons n l ih =>
    obtain ⟨hn, hl⟩ := List.forall_mem_cons.1 h
    rw [List.forall_mem_cons, ← ih hl, List.sum_cons, List.length_cons]
    have hle := l.length_le_sum_of_one_le hl
    omega

/-- The tallies of a poll sum to the number of its votes exactly when one option has the
identifier of each vote: all votes are for options of the poll, so each is counted. -/
theorem sums_iff {s : PollSystem} (h : Recorded P s)
    (hpoll : pollFor s.toDeployment board pollId = some poll) :
    ((resultsOf s.votes.rows board pollId poll).options.map (·.2)).sum
        = s.votes.rows.countP (·.isOf board.hostedBoardId pollId) ↔
      ∀ b ∈ s.ballotsOf board.hostedBoardId pollId,
        (poll.options.map (·.id)).count b.vote.optionId = 1 := by
  have hcounted : ∀ b ∈ s.ballotsOf board.hostedBoardId pollId,
      1 ≤ (poll.options.map (·.id)).count b.vote.optionId := by
    intro b hb
    obtain ⟨hb, hof⟩ := mem_ballotsOf.1 hb
    obtain ⟨poll', hpoll', option, hoption, hid⟩ := h.polled b hb
    rw [(PollVote.isOf_iff.1 hof).2, threadPoll_of_pollFor hpoll] at hpoll'
    cases hpoll'
    exact List.one_le_count_iff.2 (hid ▸ List.mem_map_of_mem hoption)
  rw [sum_resultsOf, named, h.filter_rows, List.map_map, List.map_map,
    List.countP_eq_length_filter, h.filter_rows, List.length_map]
  have hsum := sum_eq_length_iff (l := (s.ballotsOf board.hostedBoardId pollId).map fun b =>
    (poll.options.map (·.id)).count b.vote.optionId) (by
      intro n hn
      obtain ⟨b, hb, rfl⟩ := List.mem_map.1 hn
      exact hcounted b hb)
  rw [List.length_map, List.forall_mem_map] at hsum
  exact hsum

theorem results_eq_some {s : PollSystem} {r : PollResults} :
    results s board pollId = some r ↔ ∃ poll,
      pollFor s.toDeployment board pollId = some poll ∧
        resultsOf s.votes.rows board pollId poll = r := by
  rw [results, Option.map_eq_some_iff]

theorem oneVote_of {s : PollSystem} (h : Recorded P s) (honce : Once s) (hsingle : Single s) :
    OneVote s where
  once := honce
  tallies board pollId r hr o ho := by
    obtain ⟨poll, -, rfl⟩ := results_eq_some.1 hr
    obtain ⟨option, -, rfl⟩ := List.mem_map.1 ho
    exact tallies_of_once h honce ..
  sums board pollId r hr := by
    obtain ⟨poll, hpoll, rfl⟩ := results_eq_some.1 hr
    refine (sums_iff h hpoll).2 fun b hb => ?_
    obtain ⟨hb, hof⟩ := mem_ballotsOf.1 hb
    refine hsingle b hb poll ?_
    rw [(PollVote.isOf_iff.1 hof).2]
    exact threadPoll_of_pollFor hpoll

/-- A vote is taken in when the digest of its voter is new in its poll. -/
theorem exists_insert_iff {t : VoteTable} {vote : PollVote} :
    (∃ t', t.insert vote = some t') ↔
      ∀ v ∈ t.rows, v.isOf vote.hostedBoardId vote.pollId = true →
        v.voterHash ≠ vote.voterHash := by
  rw [← Option.isSome_iff_exists, Table.insert, Table.commit_isSome, uniqueOn_append]
  simp only [PollVote.key, PollVote.isOf_iff, ne_eq, Prod.mk.injEq, not_and, true_imp_iff, and_imp,
    and_iff_right t.valid]

/-! ### Runs -/

variable {V : VpEnv} {fits : String → Bool} {s : PollSystem}

/-- A vote of a digest that is new in its poll is stored. -/
theorem stored_of_new {now : Time} {optionId : Json} {did : String} {id : String}
    (hcheck : checkVote fits now board pollId optionId s.toDeployment = .ok (poll, id))
    (hnew : ∀ v ∈ s.votes.rows, v.isOf board.hostedBoardId pollId = true →
      v.voterHash ≠ voterHash P board.hostedBoardId pollId did) :
    ∃ vote votes, Stored P fits now board pollId optionId did s poll vote votes ∧
      vote.optionId = id ∧ (castVote P fits now board pollId optionId did s).2
        = { s with votes, ballots := s.ballots ++ [⟨did, vote⟩] } := by
  have hexists : ∃ votes, s.votes.insert
      { hostedBoardId := board.hostedBoardId, pollId, optionId := id,
        voterHash := voterHash P board.hostedBoardId pollId did } = some votes :=
    exists_insert_iff.2 hnew
  obtain ⟨votes, hvotes⟩ := hexists
  refine ⟨_, votes, ⟨hcheck, ⟨rfl, rfl⟩, rfl, hvotes⟩, rfl, ?_⟩
  unfold castVote
  rw [hcheck]
  dsimp only
  rw [hvotes]

theorem permitted_of_oneVote (h : Recorded V.toPlatform s) {e : PollEvent}
    (hone : OneVote (pollStep V fits s e)) : Permitted V fits s e := by
  have hrec := recorded_step V fits h e
  cases e with
  | identity act =>
    intro m hm hboth
    refine (once_iff hrec).1 hone.once ((joined_iff hrec.formed).2 ⟨m, ?_, hboth⟩)
    exact mem_identityStep_pairs.2 (.inr hm)
  | host => trivial
  | append => trivial
  | vote now board pollId optionId did =>
    intro poll id hcheck hnew
    obtain ⟨vote, votes, hstored, rfl, heq⟩ := stored_of_new hcheck hnew
    obtain ⟨hpoll, -⟩ := checkVote_eq_ok hcheck
    dsimp only [pollStep] at hone hrec
    rw [heq] at hone hrec
    constructor
    · intro b hb hcanonical
      obtain ⟨hb, hof⟩ := mem_ballotsOf.1 hb
      have hmem : (⟨did, vote⟩ : Ballot) ∈ s.ballots ++ [⟨did, vote⟩] :=
        List.mem_append_right _ (List.mem_singleton.2 rfl)
      refine (once_iff hrec).1 hone.once
        ⟨b, List.mem_append_left _ hb, ⟨did, vote⟩, hmem, ?_, ?_, hcanonical⟩
      · rw [hstored.isOf.1, hstored.isOf.2]
        exact hof
      · rintro hdid
        refine hnew b.vote (h.rows ▸ List.mem_map_of_mem hb) hof ?_
        obtain ⟨hboard, hpollId⟩ := PollVote.isOf_iff.1 hof
        rw [h.hashed b hb, hboard, hpollId, hdid]
    · refine (sums_iff hrec hpoll).1 (hone.sums board pollId _ ?_) ⟨did, vote⟩ ?_
      · exact results_eq_some.2 ⟨poll, hpoll, rfl⟩
      · refine mem_ballotsOf.2 ⟨List.mem_append_right _ (List.mem_singleton.2 rfl), ?_⟩
        exact PollVote.isOf_iff.2 hstored.isOf

/-- A permitted step keeps the identities apart, and the options of the votes. -/
theorem once_step (h : Recorded V.toPlatform s) (honce : Once s) (hsingle : Single s)
    {e : PollEvent} (hok : Permitted V fits s e) :
    Once (pollStep V fits s e) ∧ Single (pollStep V fits s e) := by
  have hrec := recorded_step V fits h e
  cases e with
  | identity act =>
    refine ⟨(once_iff hrec).2 fun hjoined => ?_, hsingle⟩
    -- a pair of two voters was there before the step, or is the one of the migration
    obtain ⟨m, hm, hboth⟩ := (joined_iff hrec.formed).1 hjoined
    rcases mem_identityStep_pairs.1 hm with hm | hm
    · exact (once_iff h).1 honce ((joined_iff h.formed).2 ⟨m, hm, hboth⟩)
    · exact hok m hm hboth
  | host host => exact ⟨honce, hsingle⟩
  | append op =>
    refine ⟨honce, fun b hb poll hpoll => ?_⟩
    -- the poll of a vote was there before the op
    obtain ⟨poll', hpoll', -⟩ := h.polled b hb
    have happend := threadPoll_append hpoll' op
    obtain rfl := Option.some.inj (happend.symm.trans hpoll)
    exact hsingle b hb poll' hpoll'
  | vote now board pollId optionId did =>
    dsimp only [pollStep] at hrec ⊢
    rcases castVote_cases V.toPlatform fits now board pollId optionId did s with
      ⟨poll, vote, votes, hstored, heq⟩ | heq
    swap
    · rw [heq]
      exact ⟨honce, hsingle⟩
    rw [heq] at hrec ⊢
    have hnew := exists_insert_iff.1 ⟨votes, hstored.inserted⟩
    rw [hstored.isOf.1, hstored.isOf.2, hstored.hash] at hnew
    obtain ⟨hapart, hcount⟩ := hok poll _ hstored.checked hnew
    constructor
    · refine (once_iff hrec).2 ?_
      rintro ⟨b, hb, b', hb', hof, hne, hcanonical⟩
      rcases List.mem_append.1 hb with hb | hb <;> rcases List.mem_append.1 hb' with hb' | hb'
      · exact (once_iff h).1 honce ⟨b, hb, b', hb', hof, hne, hcanonical⟩
      · rw [List.mem_singleton.1 hb'] at hof hcanonical
        rw [hstored.isOf.1, hstored.isOf.2] at hof
        exact hapart b (mem_ballotsOf.2 ⟨hb, hof⟩) hcanonical
      · rw [List.mem_singleton.1 hb] at hof hcanonical
        obtain ⟨hboard, hpollId⟩ := PollVote.isOf_iff.1 hof
        refine hapart b' (mem_ballotsOf.2 ⟨hb', PollVote.isOf_iff.2 ⟨?_, ?_⟩⟩) hcanonical.symm
        · exact hboard.symm.trans hstored.isOf.1
        · exact hpollId.symm.trans hstored.isOf.2
      · rw [List.mem_singleton.1 hb, List.mem_singleton.1 hb'] at hne
        exact hne rfl
    · intro b hb poll' hpoll'
      rcases List.mem_append.1 hb with hb | hb
      · exact hsingle b hb poll' hpoll'
      · rw [List.mem_singleton.1 hb] at hpoll' ⊢
        dsimp only at hpoll' ⊢
        rw [hstored.isOf.2, threadPoll_of_pollFor (checkVote_eq_ok hstored.checked).1] at hpoll'
        cases hpoll'
        exact hcount

theorem oneVote_empty : OneVote .empty :=
  oneVote_of (recorded_empty Platform.toy) (fun _ _ => List.nodup_nil)
    fun _ h => absurd h List.not_mem_nil

/-- **Every state of a run counts every identity once exactly when every step is permitted.**  A
step breaks the count in two ways only, a vote of an identity that has voted, or a migration that
makes two voters one; both are seen before the step. -/
theorem oneVote_iff (V : VpEnv) (fits : String → Bool) (run : List PollEvent) :
    (∀ as bs, run = as ++ bs → OneVote (exec (pollStep V fits) .empty as)) ↔
      Along (pollStep V fits) (Permitted V fits) .empty run := by
  constructor
  · intro hone
    refine along_iff_split.2 fun as e bs hrun => ?_
    have hrec := exec_invariant (I := Recorded V.toPlatform)
      (fun s e h => recorded_step V fits h e) (recorded_empty _) as
    refine permitted_of_oneVote hrec ?_
    have hnext := hone (as ++ [e]) bs (by rw [hrun, List.append_assoc, List.singleton_append])
    rw [exec_append, exec_cons, exec_nil] at hnext
    exact hnext
  · rintro halong as bs rfl
    have hinv := (along_append.1 halong).1.invariant
      (I := fun s => Recorded V.toPlatform s ∧ Once s ∧ Single s)
      (fun s e h hok => ⟨recorded_step V fits h.1 e, once_step h.1 h.2.1 h.2.2 hok⟩)
      ⟨recorded_empty _, oneVote_empty.once, fun _ h => absurd h List.not_mem_nil⟩
    exact oneVote_of hinv.1 hinv.2.1 hinv.2.2

theorem exec_identity (V : VpEnv) (fits : String → Bool) (s : PollSystem)
    (acts : List IdentityAction) : exec (pollStep V fits) s (acts.map .identity) =
      { s with relay := exec (identityStep V) s.relay acts } := by
  induction acts generalizing s with
  | nil => rfl
  | cons act acts ih => exact ih _

theorem relay_exec_vote (V : VpEnv) (fits : String → Bool) (s : PollSystem) (now : Time)
    (board : ForumHostBoard) (pollId : String) (optionId : Json) (dids : List String) :
    (exec (pollStep V fits) s (dids.map (.vote now board pollId optionId))).relay = s.relay := by
  induction dids generalizing s with
  | nil => rfl
  | cons did dids ih =>
    refine (ih _).trans ?_
    dsimp only [pollStep]
    rcases castVote_cases V.toPlatform fits now board pollId optionId did s with
      ⟨_, _, _, -, heq⟩ | heq
    all_goals rw [heq]

theorem not_oneVote_of_pair {r : Relay} {hostedBoardId did did' : String}
    (hdids : (s.ballotsOf hostedBoardId pollId).map (·.did) = [did, did'])
    (heq : r.canonicalDid did = r.canonicalDid did') : ¬ OneVote { s with relay := r } := by
  intro hone
  have honce : ((s.ballotsOf hostedBoardId pollId).map fun b => r.canonicalDid b.did).Nodup :=
    hone.once hostedBoardId pollId
  have hcanonical := congrArg (List.map r.canonicalDid) hdids
  rw [List.map_map] at hcanonical
  rw [← Function.comp_def, hcanonical, List.map_cons, List.map_singleton, heq] at honce
  exact (List.nodup_cons.1 honce).1 List.mem_cons_self

/-! ### Two polls on the toy platform -/

open Reputation (toyVpEnv)
open AnchorStore (movedDid movedToDid bothAnchored toyMigration)

/-- A thread with a poll of two options. -/
def toyThread (second : String) : OpStore.Op :=
  ⟨"op-1", "did:plc:carol", "thread", "t", "insert",
    "\x7b\"boardId\":\"alpha\",\"poll\":\x7b\"options\":[\x7b\"id\":\"a\",\"label\":\"A\"\x7d,"
      ++ "\x7b\"id\":\"" ++ second ++ "\",\"label\":\"B\"\x7d]\x7d\x7d",
    "sig", 1, "2026-01-01T00:00:00Z"⟩

def toyVotes (second : String) (dids : List String) : List PollEvent :=
  [.host Moderation.toyHost, .append (toyThread second)] ++
    dids.map (.vote 0 (Moderation.toyBoard 1 "alpha") "t" (.str "a"))

theorem exec_toyVotes (second : String) (dids : List String) (acts : List IdentityAction) :
    exec (pollStep toyVpEnv fun _ => true) .empty (toyVotes second dids ++ acts.map .identity) =
      { exec (pollStep toyVpEnv fun _ => true) .empty (toyVotes second dids) with
        relay := exec (identityStep toyVpEnv) Relay.empty acts } := by
  have hrelay : (exec (pollStep toyVpEnv fun _ => true) .empty
      (toyVotes second dids)).relay = Relay.empty := by
    rw [toyVotes, exec_append]
    exact relay_exec_vote ..
  rw [exec_append, exec_identity, hrelay]

theorem toyVotes_facts :
    ((exec (pollStep toyVpEnv fun _ => true) .empty
      (toyVotes "b" [movedDid, movedToDid])).ballotsOf "alpha" "t").map (·.did)
        = [movedDid, movedToDid] ∧
    (results (exec (pollStep toyVpEnv fun _ => true) .empty (toyVotes "a" [movedDid]))
      (Moderation.toyBoard 1 "alpha") "t").map (fun r => (r.options.map (·.2)).sum) = some 2 ∧
    (exec (pollStep toyVpEnv fun _ => true) .empty (toyVotes "a" [movedDid])).votes.rows.countP
      (·.isOf "alpha" "t") = 1 := by
  decide +kernel

/-- Alice votes under both of her DIDs and moves from the one to the other.  The one vote for an
identifier that two options have counts for both. -/
theorem vote_counted_twice :
    ¬ OneVote (exec (pollStep toyVpEnv fun _ => true) .empty
      (toyVotes "b" [movedDid, movedToDid] ++
        (bothAnchored ++ [IdentityAction.migrate toyMigration]).map .identity)) ∧
    ¬ OneVote (exec (pollStep toyVpEnv fun _ => true) .empty (toyVotes "a" [movedDid])) := by
  obtain ⟨hdids, hsum, hrows⟩ := toyVotes_facts
  obtain ⟨-, hequivalent, hne⟩ := movedLog_facts
  constructor
  · rw [exec_toyVotes]
    refine not_oneVote_of_pair hdids ?_
    rw [BoardGovernance.equivalent, Bool.or_eq_true, beq_iff_eq, beq_iff_eq] at hequivalent
    exact hequivalent.resolve_left (Ne.symm hne)
  · intro hone
    obtain ⟨r, hr, hsum⟩ := Option.map_eq_some_iff.1 hsum
    have hsums := hone.sums _ _ r hr
    exact absurd (hsum.symm.trans (hsums.trans hrows)) (by decide)

end Polls

end Ansible
