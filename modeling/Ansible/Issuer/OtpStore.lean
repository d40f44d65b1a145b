import Ansible.Lib.Assoc
import Ansible.Lib.Run

/-!
# One-time passwords

The store keeps one code for a DID.  A code dies when it is used, when it has expired, when another
takes its place, and when too many guesses were wrong.

## Main definitions

* `OtpStore.issue`, `OtpStore.verifyAndConsume` — the operations of the store.
* `OtpSystem` — a store, the codes that it has issued, and all calls that guess at one.
* `OtpSystem.Safe` — what the answers to the guesses can be.

## Main results

* `otp_safe` — **in every run each code is accepted at most once, not after it has expired, and
  after at most as many wrong guesses as are allowed.**
-/

namespace Ansible.Otp

abbrev Time := ℤ

inductive OtpError
  | invalidOTP
  | expiredOTP
  | tooManyAttempts
  /-- No random digits could be drawn. -/
  | unavailable
  deriving DecidableEq, Repr

def maxVerifyAttempts : ℕ := 5

structure OtpEntry where
  email : String
  code : String
  expiresAt : Time
  attempts : ℕ
  deriving DecidableEq, Repr

structure OtpStore where
  entries : Assoc String OtpEntry
  ttl : Time

namespace OtpStore

def newStore (ttl : Time) : OtpStore := ⟨∅, ttl⟩

/-- `sweepLocked` -/
def sweep (now : Time) (s : OtpStore) : OtpStore :=
  { s with entries := s.entries.filterValues fun e => !decide (e.expiresAt < now) }

/-- The digits are drawn, or cannot be. -/
def issue (did email : String) (digits : Option String) (now : Time) (s : OtpStore) :
    Except OtpError String × OtpStore :=
  match digits with
  | none => (.error .unavailable, s)
  | some code =>
    let s := s.sweep now
    let entry : OtpEntry := { email, code, expiresAt := now + s.ttl, attempts := 0 }
    (.ok code, { s with entries := s.entries.insert did entry })

def verifyAndConsume (did email code : String) (now : Time) (s : OtpStore) :
    Except OtpError Unit × OtpStore :=
  match s.entries.lookup did with
  | none => (.error .invalidOTP, s)
  | some e =>
    if e.expiresAt < now then (.error .expiredOTP, { s with entries := s.entries.erase did })
    else if e.email = email ∧ e.code = code then
      (.ok (), { s with entries := s.entries.erase did })
    else if maxVerifyAttempts ≤ e.attempts + 1 then
      (.error .tooManyAttempts, { s with entries := s.entries.erase did })
    else
      (.error .invalidOTP,
        { s with entries := s.entries.insert did { e with attempts := e.attempts + 1 } })

end OtpStore

/-! ### The system -/

/-- A code that was issued. -/
structure Issued where
  did : String
  email : String
  code : String
  expiresAt : Time
  deriving DecidableEq, Repr

/-- A call of `verifyAndConsume` with its answer, and the number of the code that was the last one
issued for its DID, if any was. -/
structure Guess where
  serial : Option ℕ
  did : String
  email : String
  code : String
  now : Time
  answer : Except OtpError Unit

/-- The guess was made while the code `n` was the last one of its DID, and was accepted. -/
def Guess.acceptedAt (n : ℕ) (g : Guess) : Bool := g.serial == some n && g.answer.isOk

/-- The guess was made while `i`, the code `n`, was the last one of its DID and had not expired, and
is not that code. -/
def Guess.wrongAt (n : ℕ) (i : Issued) (g : Guess) : Bool :=
  g.serial == some n && decide (g.now ≤ i.expiresAt) && !(i.email == g.email && i.code == g.code)

/-- The store, the codes in the order of their issue, the number of the last code of a DID, and the
guesses in their order, whatever the store answers. -/
structure OtpSystem where
  store : OtpStore
  issued : List Issued
  last : String → Option ℕ
  guesses : List Guess

/-- The calls, each under the lock of the store at a time of its own. -/
inductive OtpEvent
  | issue (did email : String) (digits : Option String) (now : Time)
  | verify (did email code : String) (now : Time)

namespace OtpSystem

def new (ttl : Time) : OtpSystem := ⟨.newStore ttl, [], fun _ => none, []⟩

def step (s : OtpSystem) : OtpEvent → OtpSystem
  | .issue did email digits now =>
    let r := s.store.issue did email digits now
    match r.1 with
    | .ok code =>
      { s with
        store := r.2
        issued := s.issued ++ [⟨did, email, code, now + s.store.ttl⟩]
        last := fun d => if d = did then some s.issued.length else s.last d }
    | .error _ => { s with store := r.2 }
  | .verify did email code now =>
    let r := s.store.verifyAndConsume did email code now
    { s with store := r.2, guesses := s.guesses ++ [⟨s.last did, did, email, code, now, r.1⟩] }

/-- What an accepted guess was: the last code of its DID, which had not expired, had not been
accepted before, and had been guessed at wrongly fewer times than are allowed. -/
def Right (s : OtpSystem) (before : List Guess) (g : Guess) : Prop :=
  ∃ n i, g.serial = some n ∧ s.issued[n]? = some i ∧ i.did = g.did ∧ g.now ≤ i.expiresAt ∧
    i.email = g.email ∧ i.code = g.code ∧ before.any (·.acceptedAt n) = false ∧
    before.countP (·.wrongAt n i) < maxVerifyAttempts

/-- The last code of the DID of the guess has been accepted, or has been guessed at wrongly as often
as is allowed. -/
def Dead (s : OtpSystem) (before : List Guess) (g : Guess) : Prop :=
  ∃ n i, g.serial = some n ∧ s.issued[n]? = some i ∧ (before.any (·.acceptedAt n) = true ∨
    maxVerifyAttempts ≤ before.countP (·.wrongAt n i))

/-- How every guess of the run was answered, after those before it. -/
structure Safe (s : OtpSystem) : Prop where
  accepted : ∀ before g after, s.guesses = before ++ g :: after → g.answer = .ok () →
    s.Right before g
  /-- No code is accepted twice. -/
  once : ∀ n, s.guesses.countP (·.acceptedAt n) ≤ 1
  /-- Guesses at a dead code are not compared with it: they are all answered alike. -/
  dead : ∀ before g after, s.guesses = before ++ g :: after → s.Dead before g →
    g.answer = .error .invalidOTP

/-- An entry is the last code of its DID, with the number of the wrong guesses at it. -/
def Live (s : OtpSystem) (did : String) (e : OtpEntry) : Prop :=
  ∃ n, s.last did = some n ∧ s.issued[n]? = some ⟨did, e.email, e.code, e.expiresAt⟩ ∧
    s.guesses.any (·.acceptedAt n) = false ∧
    s.guesses.countP (·.wrongAt n ⟨did, e.email, e.code, e.expiresAt⟩) = e.attempts ∧
    e.attempts < maxVerifyAttempts

/-- The account of the guesses. -/
structure Sound (s : OtpSystem) : Prop where
  safe : s.Safe
  known : ∀ g ∈ s.guesses, ∀ n ∈ g.serial, n < s.issued.length
  last : ∀ did n, s.last did = some n → ∃ i, s.issued[n]? = some i ∧ i.did = did
  live : ∀ did e, s.store.entries.lookup did = some e → s.Live did e

/-! ### Issuing -/

variable {s : OtpSystem} {did : String} {e : OtpEntry}

theorem serial_of_acceptedAt {n : ℕ} {g : Guess} (h : g.acceptedAt n = true) :
    g.serial = some n := by
  rw [Guess.acceptedAt, Bool.and_eq_true, beq_iff_eq] at h
  exact h.1

theorem serial_of_wrongAt {n : ℕ} {i : Issued} {g : Guess} (h : g.wrongAt n i = true) :
    g.serial = some n := by
  rw [Guess.wrongAt, Bool.and_eq_true, Bool.and_eq_true, beq_iff_eq] at h
  exact h.1.1

theorem getElem?_issued {issued : List Issued} {n : ℕ} {i : Issued} (h : issued[n]? = some i)
    (new : Issued) : (issued ++ [new])[n]? = some i := by
  obtain ⟨hlt, -⟩ := List.getElem?_eq_some_iff.1 h
  rw [List.getElem?_append_left hlt, h]

theorem Sound.issue (h : s.Sound) (did email : String) (digits : Option String) (now : Time) :
    (s.step (.issue did email digits now)).Sound := by
  cases digits with
  | none => exact h
  | some code =>
    refine ⟨⟨fun before g after hsplit hok => ?_, h.safe.once,
      fun before g after hsplit hdead => ?_⟩,
      fun g hg n hn => ?_, fun did' n hn => ?_, fun did' e hlookup => ?_⟩
    · obtain ⟨n, i, hn, hi, hright⟩ := h.safe.accepted before g after hsplit hok
      exact ⟨n, i, hn, getElem?_issued hi _, hright⟩
    · obtain ⟨n, i, hn, hi, hdead⟩ := hdead
      have hlt := h.known g (hsplit ▸ List.mem_append_right _ List.mem_cons_self) n hn
      exact h.safe.dead before g after hsplit
        ⟨n, i, hn, (List.getElem?_append_left hlt).symm.trans hi, hdead⟩
    · exact Nat.lt_of_lt_of_le (h.known g hg n hn) (by simp [step, OtpStore.issue])
    · by_cases hdid : did' = did
      · obtain rfl : s.issued.length = n := Option.some.inj ((if_pos hdid).symm.trans hn)
        exact ⟨_, List.getElem?_concat_length, hdid.symm⟩
      · obtain ⟨i, hi, hid⟩ := h.last did' n ((if_neg hdid).symm.trans hn)
        exact ⟨i, getElem?_issued hi _, hid⟩
    · dsimp only [step, OtpStore.issue] at hlookup
      rw [Assoc.lookup_insert'] at hlookup
      by_cases hdid : did' = did
      · -- the new code, at which there are no guesses yet
        subst hdid
        rw [if_pos rfl] at hlookup
        cases hlookup
        have hnone : ∀ g ∈ s.guesses, g.serial ≠ some s.issued.length := fun g hg hn =>
          lt_irrefl _ (h.known g hg _ hn)
        refine ⟨s.issued.length, if_pos rfl, List.getElem?_concat_length, ?_, ?_,
          Nat.zero_lt_succ _⟩
        · exact List.any_eq_false.2 fun g hg hg' => hnone g hg (serial_of_acceptedAt hg')
        · exact List.countP_eq_zero.2 fun g hg hg' => hnone g hg (serial_of_wrongAt hg')
      · rw [if_neg hdid] at hlookup
        obtain ⟨n, hn, hi, hlive⟩ := h.live did' e (Assoc.lookup_of_filterValues hlookup)
        have hlast : (s.step (.issue did email (some code) now)).last did' = some n :=
          (if_neg hdid).trans hn
        exact ⟨n, hlast, getElem?_issued hi _, hlive⟩

/-! ### Guessing -/

/-- A list with one more element is split at it, or before it. -/
theorem split_concat {α : Type} {l before after : List α} {x a : α}
    (h : l ++ [a] = before ++ x :: after) :
    l = before ∧ a = x ∨ ∃ after', l = before ++ x :: after' := by
  rcases List.eq_nil_or_concat after with rfl | ⟨after, y, rfl⟩
  · obtain ⟨hl, ha⟩ := List.append_inj' h rfl
    exact .inl ⟨hl, List.singleton_inj.1 ha⟩
  · rw [List.concat_eq_append, ← List.cons_append, ← List.append_assoc] at h
    exact .inr ⟨after, (List.append_inj' h rfl).1⟩

/-- One more guess, which is accepted if it is right, and not if the code is dead. -/
theorem Safe.guess (h : s.Safe) (store : OtpStore) {g : Guess}
    (hright : g.answer = .ok () → s.Right s.guesses g)
    (hdead : s.Dead s.guesses g → g.answer = .error .invalidOTP) :
    Safe { s with store, guesses := s.guesses ++ [g] } where
  accepted before x after hsplit hok := by
    rcases split_concat hsplit with ⟨rfl, rfl⟩ | ⟨after', hsplit⟩
    · exact hright hok
    · exact h.accepted before x after' hsplit hok
  once n := by
    rw [List.countP_append, List.countP_singleton]
    split
    · next haccepted =>
      -- it is right, so the code has not been accepted before
      have hok : g.answer = .ok () := by
        rw [Guess.acceptedAt, Bool.and_eq_true] at haccepted
        cases hanswer : g.answer with
        | ok => rfl
        | error e =>
          rw [hanswer] at haccepted
          cases haccepted.2
      obtain ⟨m, i, hm, -, -, -, -, -, hnone, -⟩ := hright hok
      obtain rfl := Option.some.inj ((serial_of_acceptedAt haccepted).symm.trans hm)
      rw [List.countP_eq_zero.2 (List.any_eq_false.1 hnone)]
    · exact h.once n
  dead before x after hsplit hx := by
    rcases split_concat hsplit with ⟨rfl, rfl⟩ | ⟨after', hsplit⟩
    · exact hdead hx
    · exact h.dead before x after' hsplit hx

variable {g : Guess} {store : OtpStore}

theorem Live.other (h : s.Live did e) (hother : ∀ n ∈ s.last did, g.serial ≠ some n) :
    Live { s with store, guesses := s.guesses ++ [g] } did e := by
  obtain ⟨n, hn, hi, hnone, hcount, hfew⟩ := h
  refine ⟨n, hn, hi, ?_, ?_, hfew⟩
  · rw [List.any_append, hnone, Bool.false_or, List.any_eq_false]
    exact fun x hx hx' => hother n hn (List.mem_singleton.1 hx ▸ serial_of_acceptedAt hx')
  · rw [List.countP_append, hcount, List.countP_singleton,
      if_neg fun hx => hother n hn (serial_of_wrongAt hx), Nat.add_zero]

/-- What a guess leaves of the account: it counts for the last code of its DID alone. -/
theorem Sound.guess (h : s.Sound) (hserial : g.serial = s.last did)
    (hright : g.answer = .ok () → s.Right s.guesses g)
    (hdead : s.Dead s.guesses g → g.answer = .error .invalidOTP)
    (hkept : ∀ did' ≠ did, store.entries.lookup did' = s.store.entries.lookup did')
    (hentry : ∀ e, store.entries.lookup did = some e →
      Live { s with store, guesses := s.guesses ++ [g] } did e) :
    Sound { s with store, guesses := s.guesses ++ [g] } := by
  refine ⟨h.safe.guess store hright hdead, fun x hx n hn => ?_, h.last, fun did' e he => ?_⟩
  · rcases List.mem_append.1 hx with hx | hx
    · exact h.known x hx n hn
    · rw [List.mem_singleton.1 hx, hserial] at hn
      obtain ⟨i, hi, -⟩ := h.last did n hn
      exact (List.getElem?_eq_some_iff.1 hi).1
  · by_cases hdid : did' = did
    · exact hdid ▸ hentry e (hdid ▸ he)
    · refine (h.live did' e ((hkept did' hdid).symm.trans he)).other fun n hn hg => hdid ?_
      obtain ⟨i, hi, rfl⟩ := h.last did' n hn
      obtain ⟨j, hj, rfl⟩ := h.last did n (hserial.symm.trans hg)
      exact congrArg Issued.did (Option.some.inj (hi.symm.trans hj))

theorem Sound.verify (h : s.Sound) (did email code : String) (now : Time) :
    (s.step (.verify did email code now)).Sound := by
  dsimp only [step]
  unfold OtpStore.verifyAndConsume
  have herased : ∀ did' ≠ did,
      (s.store.entries.erase did).lookup did' = s.store.entries.lookup did' :=
    fun did' hdid => AList.lookup_erase_ne hdid
  have hgone : ∀ e, (s.store.entries.erase did).lookup did ≠ some e :=
    fun e he => (Assoc.lookup_of_erase he).1 rfl
  cases hlookup : s.store.entries.lookup did with
  | none =>
    refine h.guess rfl (fun hok => by cases hok) (fun _ => rfl) (fun _ _ => rfl) fun e he => ?_
    cases hlookup.symm.trans he
  | some e =>
    obtain ⟨n, hn, hi, hnone, hcount, hfew⟩ := h.live did e hlookup
    -- the code of an entry is not dead
    have halive : ∀ g : Guess, g.serial = s.last did → ¬ s.Dead s.guesses g := by
      rintro g hg ⟨m, i, hm, him, hdead⟩
      obtain rfl : n = m := Option.some.inj (hn.symm.trans (hg.symm.trans hm))
      obtain rfl := Option.some.inj (hi.symm.trans him)
      rcases hdead with haccepted | hmany
      · rw [hnone] at haccepted
        cases haccepted
      · omega
    dsimp only
    split
    · exact h.guess rfl (fun hok => by cases hok) (fun hdead => absurd hdead (halive _ rfl)) herased
        fun e he => absurd he (hgone e)
    next hexpiry =>
    split
    · next hcode =>
      refine h.guess rfl (fun _ => ?_) (fun hdead => absurd hdead (halive _ rfl)) herased
        fun e he => absurd he (hgone e)
      exact ⟨n, _, hn, hi, rfl, Int.not_lt.1 hexpiry, hcode.1, hcode.2, hnone, hcount ▸ hfew⟩
    next hwrong =>
    split
    · exact h.guess rfl (fun hok => by cases hok) (fun hdead => absurd hdead (halive _ rfl)) herased
        fun e he => absurd he (hgone e)
    · next hmany =>
      refine h.guess rfl (fun hok => by cases hok) (fun hdead => absurd hdead (halive _ rfl))
        (fun did' hdid => AList.lookup_insert_ne hdid) fun e' he' => ?_
      rw [AList.lookup_insert] at he'
      cases he'
      refine ⟨n, hn, hi, ?_, ?_, Nat.lt_of_not_le hmany⟩
      · rw [List.any_append, hnone]
        simp [Guess.acceptedAt, Except.isOk, Except.toBool]
      · rw [List.countP_append, hcount, List.countP_singleton, if_pos]
        have hnot : (e.email == email && e.code == code) = false := by simpa using hwrong
        rw [Guess.wrongAt, hn, beq_self_eq_true, decide_eq_true (Int.not_lt.1 hexpiry), hnot]
        rfl

/-- **Every call keeps the account of the guesses.** -/
theorem Sound.step (h : s.Sound) (e : OtpEvent) : (s.step e).Sound := by
  cases e with
  | issue did email digits now => exact h.issue did email digits now
  | verify did email code now => exact h.verify did email code now

theorem sound_new (ttl : Time) : (new ttl).Sound where
  safe := by
    refine ⟨fun before g after hsplit => ?_, fun n => Nat.zero_le 1,
      fun before g after hsplit => ?_⟩
    all_goals exact absurd hsplit.symm (List.append_ne_nil_of_right_ne_nil _ (List.cons_ne_nil _ _))
  known _ hg := absurd hg List.not_mem_nil
  last _ _ h := nomatch h
  live _ _ h := nomatch h

end OtpSystem

/-- **In every run each code is accepted at most once, not after it has expired, and after fewer
wrong guesses than are allowed.**  The calls and their answers are all recorded; what carries the
induction is that an entry counts the wrong guesses at the last code of its DID, which has not been
accepted, so that a guess at any other code meets no entry. -/
theorem otp_safe (ttl : Time) (run : List OtpEvent) :
    (exec OtpSystem.step (.new ttl) run).Safe :=
  (exec_invariant (fun _ e h => h.step e) (OtpSystem.sound_new ttl) run).safe

/-- A code is guessed at wrongly, is right, and is used up; another one is killed by five wrong
guesses. -/
def toyRun : List OtpEvent :=
  .issue "did:plc:alice" "alice@example.com" (some "123456") 0 ::
    [.verify "did:plc:alice" "alice@example.com" "000000" 1,
      .verify "did:plc:alice" "alice@example.com" "123456" 2,
      .verify "did:plc:alice" "alice@example.com" "123456" 3,
      .issue "did:plc:alice" "alice@example.com" (some "654321") 4] ++
    List.replicate 5 (.verify "did:plc:alice" "alice@example.com" "000000" 5) ++
    [.verify "did:plc:alice" "alice@example.com" "654321" 6]

theorem otp_safe_toy : (exec OtpSystem.step (.new 300) toyRun).Safe ∧
    ((exec OtpSystem.step (.new 300) toyRun).guesses.map fun g => (g.serial, g.answer.isOk)) =
      [(some 0, false), (some 0, true), (some 0, false)] ++
        List.replicate 6 (some 1, false) :=
  ⟨otp_safe 300 toyRun, by decide⟩

end Ansible.Otp
