import TicketWave.Gateway.Guards
import TicketWave.RateLimit.Bound

/-!
# The limits under load

Any number of requests at once, with their questions to Redis in any order.
-/

namespace TicketWave.Gateway.Api

open Library Library.Asking

/-- An exchange of one of the requests, and when it was answered. -/
structure Entry where
  run : Nat
  time : Nat
  exchange : Exchange

def Entry.attempt (entry : Entry) : Option (RateLimit.Call × RateLimit.Reply) :=
  match entry.exchange with
  | ⟨.allow key count window, reply⟩ =>
      some (⟨key, count, window, entry.time⟩, reply)
  | _ => none

def attemptsOf (log : List Entry) : List (RateLimit.Call × RateLimit.Reply) :=
  log.filterMap Entry.attempt

def exchangesOf (run : Nat) (log : List Entry) : List Exchange :=
  (log.filter fun entry => decide (entry.run = run)).map Entry.exchange

/-- The log of what was asked and answered, while Redis can be reached: every
request by itself is a run of its handler, as far as it got. -/
structure Served (api : API) (requests : Nat → Request) (log : List Entry) :
    Prop where
  runs :
    ∀ run, ∃ later response,
      Runs (serve api (requests run)) (exchangesOf run log ++ later) response
  ordered : log.Pairwise fun earlier later => earlier.time ≤ later.time
  redis :
    attemptsOf log =
      RateLimit.trace RateLimit.emptyStore ((attemptsOf log).map Prod.fst)
  reached : ∀ attempt ∈ attemptsOf log, attempt.2.failed = false
  /-- no number is too large for the script of the limiter -/
  few : ((attemptsOf log).length : Int) < roundsOut

/-- The entry is an attempt on the key that was let through. -/
def Entry.passes (key : String) (entry : Entry) : Bool :=
  entry.attempt.any fun attempt =>
    RateLimit.onKey key attempt.1 && attempt.2.result.allowed

def passedWithin (begins : Int) (key : String) (log : List Entry) : Nat :=
  log.countP fun entry =>
    entry.passes key && RateLimit.within begins minute entry.time

section Keys

theorem takeWhile_key
    {name : String} (plain : ':' ∉ name.toList) (subject : String) :
    (name ++ ":" ++ subject).toList.takeWhile (fun char => decide (char ≠ ':')) =
      name.toList := by
  have colon : ":".toList = [':'] := rfl
  rw [String.toList_append, String.toList_append, colon, List.append_assoc,
    List.takeWhile_append_of_pos]
  · rw [List.singleton_append, List.takeWhile_cons_of_neg (by decide),
      List.append_nil]
  · intro char member
    exact decide_eq_true fun isColon => plain (isColon ▸ member)

theorem plain_of_limits : ∀ known ∈ limits, ':' ∉ known.1.toList := by
  decide

theorem count_of_limits :
    ∀ known ∈ limits, ∀ other ∈ limits, known.1 = other.1 →
      known.2 = other.2 := by
  decide

theorem count_of_keyed {name subject key : String} {count given window : Int}
    (known : (name, count) ∈ limits) (keyed : Keyed key given window)
    (isKey : key = name ++ ":" ++ subject) :
    given = count ∧ window = minute := by
  obtain ⟨other, otherSubject, isOther, alsoKnown, isMinute⟩ := keyed
  have sameList :
      other.toList = name.toList := by
    rw [← takeWhile_key (plain_of_limits _ alsoKnown) otherSubject,
      ← takeWhile_key (plain_of_limits _ known) subject, ← isOther, isKey]
  have sameName : other = name := String.toList_inj.mp sameList
  exact ⟨count_of_limits _ alsoKnown _ known sameName, isMinute⟩

end Keys

section Log

variable {api : API} {requests : Nat → Request} {log : List Entry}

theorem of_attempt {entry : Entry} {attempt : RateLimit.Call × RateLimit.Reply}
    (isAttempt : entry.attempt = some attempt) :
    entry.time = attempt.1.time ∧
      entry.exchange =
        ⟨.allow attempt.1.key attempt.1.limit attempt.1.window, attempt.2⟩ := by
  obtain ⟨run, time, exchange⟩ := entry
  match exchange, isAttempt with
  | ⟨.allow key count window, reply⟩, isAttempt =>
      cases isAttempt
      exact ⟨rfl, rfl⟩

theorem exchangesOf_split (before after : List Entry) (entry : Entry) :
    exchangesOf entry.run (before ++ entry :: after) =
      exchangesOf entry.run before ++
        entry.exchange :: exchangesOf entry.run after := by
  have own : decide (entry.run = entry.run) = true := decide_eq_true rfl
  unfold exchangesOf
  rw [List.filter_append, List.filter_cons, if_pos own, List.map_append,
    List.map_cons]

theorem Served.inOrder
    (served : Served api requests log) {before after : List Entry}
    {entry : Entry} (split : log = before ++ entry :: after) :
    ∃ id, InOrder api (requests entry.run) id (exchangesOf entry.run before)
      entry.exchange.question := by
  obtain ⟨later, response, ran⟩ := served.runs entry.run
  rw [split, exchangesOf_split, List.append_assoc] at ran
  obtain ⟨id, _, _, inOrder⟩ := good_of_runs ran
  exact ⟨id, inOrder _ _ _ rfl⟩

theorem Served.consistent (served : Served api requests log) {name : String}
    {count : Int} (known : (name, count) ∈ limits) (subject : String) :
    RateLimit.Consistent (name ++ ":" ++ subject) count minute
      ((attemptsOf log).map Prod.fst) := by
  intro call member isKey
  obtain ⟨attempt, isAttempt, rfl⟩ := List.mem_map.mp member
  obtain ⟨entry, isEntry, asked⟩ := List.mem_filterMap.mp isAttempt
  obtain ⟨before, after, split⟩ := List.append_of_mem isEntry
  obtain ⟨_, inOrder⟩ := served.inOrder split
  rw [(of_attempt asked).2] at inOrder
  exact count_of_keyed known inOrder.1 isKey

theorem pairwise_attemptsOf
    (ordered : log.Pairwise fun earlier later => earlier.time ≤ later.time) :
    ((attemptsOf log).map Prod.fst).Pairwise fun earlier later =>
      earlier.time ≤ later.time := by
  rw [List.pairwise_map]
  refine ordered.filterMap _ ?_
  intro entry other before attempt isAttempt later isLater
  rw [← (of_attempt isAttempt).1, ← (of_attempt isLater).1]
  exact before

theorem passedWithin_eq (begins : Int) (key : String) (log : List Entry) :
    passedWithin begins key log =
      RateLimit.allowedWithin begins minute
        (RateLimit.attemptsOn key (attemptsOf log)) := by
  induction log with
  | nil => rfl
  | cons entry log ih =>
      unfold passedWithin attemptsOf at *
      rw [List.countP_cons, ih]
      cases asked : entry.attempt with
      | none =>
          rw [List.filterMap_cons_none asked, Entry.passes, asked]
          rfl
      | some attempt =>
          rw [List.filterMap_cons_some asked, Entry.passes, asked,
            (of_attempt asked).1, RateLimit.attemptsOn_cons]
          by_cases same : RateLimit.onKey key attempt.1 = true
          · rw [if_pos same]
            unfold RateLimit.allowedWithin
            rw [List.countP_cons]
            simp only [Option.any_some, same, Bool.true_and]
          · rw [if_neg same]
            simp [same]

/-- With Redis at hand, an attempt that was not refused was allowed. -/
theorem Served.passes_of_unrefused
    (served : Served api requests log) {entry : Entry} (member : entry ∈ log)
    {key : String} {count window : Int} {reply : RateLimit.Reply}
    (asked : entry.exchange = ⟨.allow key count window, reply⟩)
    (unrefused : refused ⟨.allow key count window, reply⟩ = false) :
    entry.passes key = true := by
  have isAttempt :
      entry.attempt = some (⟨key, count, window, entry.time⟩, reply) := by
    rw [Entry.attempt, asked]
  have isReached :=
    served.reached _ (List.mem_filterMap.mpr ⟨entry, member, isAttempt⟩)
  have passed :
      (allowance ⟨key, count, window, 0⟩ reply).passed = true := by
    rw [← Bool.not_eq_false', ← unrefused]
    rfl
  rw [passed_allowance, isReached, Bool.false_or] at passed
  rw [Entry.passes, isAttempt, Option.any_some, passed, Bool.and_true]
  exact decide_eq_true rfl

theorem Served.passedWithin_le
    (served : Served api requests log) {name : String} {count : Int}
    (known : (name, count) ∈ limits) (subject : String) (begins : Int) :
    (passedWithin begins (name ++ ":" ++ subject) log : Int) ≤ 2 * count := by
  have bounds :
      ∀ known ∈ limits, 0 ≤ known.2 ∧ known.2 < 9007199254740992 := by
    decide
  have fewTimes :=
    List.length_filter_le (RateLimit.onKey (name ++ ":" ++ subject))
      ((attemptsOf log).map Prod.fst)
  have few := served.few
  rw [List.length_map] at fewTimes
  rw [passedWithin_eq, served.redis,
    RateLimit.attemptsOn_trace (served.consistent known subject)]
  refine RateLimit.allowedWithin_le (bounds _ known).1 (bounds _ known).2
    (by decide) (Or.inr (Or.inl (by decide))) ?_ ?_ begins
  · exact List.pairwise_map.mpr ((pairwise_attemptsOf served.ordered).filter _)
  · rw [List.length_map]
    omega

/-- The request called `Login` for the account with this key. -/
def TriesPassword (api : API) (log : List Entry) (account : String)
    (run : Nat) : Prop :=
  ∃ entry ∈ log, entry.run = run ∧
    ∃ id req, entry.exchange.question = .call id (.login req) ∧
      accountKey api req.email = account

theorem Served.passes_of_tries (served : Served api requests log)
    {account : String} {run : Nat} (tries : TriesPassword api log account run) :
    ∃ entry ∈ log, entry.run = run ∧ entry.passes account = true := by
  obtain ⟨entry, isEntry, rfl, id, req, isLogin, rfl⟩ := tries
  obtain ⟨before, after, split⟩ := List.append_of_mem isEntry
  obtain ⟨_, inOrder⟩ := served.inOrder split
  rw [isLogin] at inOrder
  obtain ⟨_, cleared, ⟨_, reply, isSeen⟩, _⟩ := inOrder
  obtain ⟨attempt, isAttempt, isExchange⟩ := List.mem_map.mp isSeen
  obtain ⟨isBefore, isRun⟩ := List.mem_filter.mp isAttempt
  have isLogged : attempt ∈ log := by
    rw [split]
    exact List.mem_append_left _ isBefore
  refine ⟨attempt, isLogged, of_decide_eq_true isRun, ?_⟩
  exact
    served.passes_of_unrefused isLogged isExchange (cleared.unrefused _ isSeen)

/-- A subject gets past a limit at most twice its count in a minute, and at
most ten passwords are tried on an account, from wherever. -/
theorem limits_hold_under_load (served : Served api requests log) :
    (∀ name count subject begins, (name, count) ∈ limits →
      (passedWithin begins (name ++ ":" ++ subject) log : Int) ≤ 2 * count) ∧
    ∀ account begins (runs : List Nat), runs.Nodup →
      (∀ run ∈ runs, TriesPassword api log account run ∧
        ∀ entry ∈ log, entry.run = run → entry.passes account = true →
          RateLimit.within begins minute entry.time = true) →
      runs.length ≤ 10 := by
  refine ⟨fun name count subject begins known => ?_, ?_⟩
  · exact served.passedWithin_le known subject begins
  · intro account begins runs distinct tries
    have covered :
        runs ⊆
          (log.filter fun entry =>
            entry.passes account &&
              RateLimit.within begins minute entry.time).map Entry.run := by
      intro run isRun
      obtain ⟨triesIt, inside⟩ := tries run isRun
      obtain ⟨entry, isEntry, isOwn, passes⟩ := served.passes_of_tries triesIt
      refine List.mem_map.mpr ⟨entry, List.mem_filter.mpr ⟨isEntry, ?_⟩, isOwn⟩
      rw [passes, inside entry isEntry isOwn passes]
      rfl
    have counted := (List.subperm_of_subset distinct covered).length_le
    rw [List.length_map, ← List.countP_eq_length_filter] at counted
    cases runs with
    | nil => exact Nat.zero_le _
    | cons run rest =>
        obtain ⟨⟨_, _, _, _, req, _, rfl⟩, _⟩ := tries run List.mem_cons_self
        have bound :=
          @Served.passedWithin_le api requests log served "login-email" 5
            (by decide) (api.hashKey req.email) begins
        have counts :
            (run :: rest).length ≤
              passedWithin begins
                ("login-email" ++ ":" ++ api.hashKey req.email) log :=
          counted
        omega

end Log

/-- Requests at work, and what they have asked. -/
structure Load where
  programs : Nat → Program Response
  log : List Entry

/-- One of them asks its next question. -/
def Load.turn (answers : List Entry → ∀ question, Ask.Answer question)
    (load : Load) (run : Nat) : Load :=
  match load.programs run with
  | .done _ => load
  | .ask question next =>
      let answer := answers load.log question
      ⟨Function.update load.programs run (next answer),
        load.log ++ [⟨run, load.log.length, ⟨question, answer⟩⟩]⟩

/-- What is left of each request goes on after what it has asked. -/
def Continues (api : API) (requests : Nat → Request) (load : Load) : Prop :=
  ∀ run later response, Runs (load.programs run) later response →
    Runs (serve api (requests run)) (exchangesOf run load.log ++ later)
      response

theorem exchangesOf_concat (run : Nat) (log : List Entry) (entry : Entry) :
    exchangesOf run (log ++ [entry]) =
      exchangesOf run log ++
        if entry.run = run then [entry.exchange] else [] := by
  unfold exchangesOf
  rw [List.filter_append, List.map_append, List.filter_singleton]
  by_cases own : entry.run = run
  · rw [if_pos own, decide_eq_true own]
    rfl
  · rw [if_neg own, decide_eq_false own]
    rfl

section Load

variable {api : API} {requests : Nat → Request} {load : Load}
  {answers : List Entry → ∀ question, Ask.Answer question}

theorem Continues.turn (continues : Continues api requests load) (run : Nat) :
    Continues api requests (load.turn answers run) := by
  unfold Load.turn
  split
  next =>
    exact continues
  next question next isNext =>
    intro other later response ran
    dsimp only at ran
    rw [exchangesOf_concat]
    by_cases own : run = other
    · subst own
      rw [Function.update_self] at ran
      rw [if_pos rfl, List.append_assoc, List.singleton_append]
      exact continues run _ response (isNext ▸ .ask _ ran)
    · rw [Function.update_of_ne (Ne.symm own)] at ran
      rw [if_neg own, List.append_nil]
      exact continues other later response ran

theorem Continues.turns (continues : Continues api requests load)
    (order : List Nat) :
    Continues api requests (order.foldl (Load.turn answers) load) := by
  induction order generalizing load with
  | nil => exact continues
  | cons run order ih => exact ih (continues.turn run)

end Load

/-- Redis answers from its store, and the password is wrong. -/
def storedAnswers (log : List Entry) : ∀ question, Ask.Answer question
  | .newString => (0 : UUID)
  | .verify _ => (none : Option Claims)
  | .allow key count window =>
      (RateLimit.allow
        (RateLimit.final RateLimit.emptyStore ((attemptsOf log).map Prod.fst))
        ⟨key, count, window, log.length⟩).1
  | .call _ _ => .error Auth.errBadCredentials

/-- Six logins on one account, each asking one question in a round. -/
def sixLogins : Load :=
  ((List.replicate 4 (List.range 6)).flatten).foldl (Load.turn storedAnswers)
    ⟨fun _ => serve plainApi loginRequest, []⟩

theorem served_sixLogins :
    Served plainApi (fun _ => loginRequest) sixLogins.log where
  runs := by
    have continues :
        Continues plainApi (fun _ => loginRequest) sixLogins :=
      Continues.turns (fun _ _ _ ran => ran) _
    intro run
    exact ⟨_, _, continues run _ _
      (runs_play (fun _ => storedAnswers []) [] (sixLogins.programs run))⟩
  ordered := by
    decide +kernel
  redis := by
    decide +kernel
  reached := by
    decide +kernel
  few := by
    decide +kernel

def isLogin (account : String) (entry : Entry) : Bool :=
  match entry.exchange.question with
  | .call _ (.login req) => decide (accountKey plainApi req.email = account)
  | _ => false

def statusOf : Program Response → Option Nat
  | .done response => some response.status
  | .ask _ _ => none

theorem sixth_password_is_not_tried :
    (∀ run < 5,
      TriesPassword plainApi sixLogins.log "login-email:u@example.org" run ∧
        statusOf (sixLogins.programs run) = some 401) ∧
      statusOf (sixLogins.programs 5) = some 429 ∧
      passedWithin 0 "login-email:u@example.org" sixLogins.log = 5 ∧
      (passedWithin 0 "login-email:u@example.org" sixLogins.log : Int) ≤ 2 * 5 ∧
      (List.range 5).length ≤ 10 := by
  have evaluated :
      ∀ run ∈ List.range 5,
        ((sixLogins.log.any fun entry =>
            decide (entry.run = run) &&
              isLogin "login-email:u@example.org" entry) &&
          statusOf (sixLogins.programs run) == some 401) = true := by
    decide +kernel
  have early : ∀ entry ∈ sixLogins.log,
      RateLimit.within 0 minute entry.time = true := by
    decide +kernel
  have tries : ∀ run ∈ List.range 5,
      TriesPassword plainApi sixLogins.log "login-email:u@example.org"
        run := by
    intro run member
    obtain ⟨tried, _⟩ := Bool.and_eq_true_iff.mp (evaluated run member)
    obtain ⟨entry, isEntry, isTry⟩ := List.any_eq_true.mp tried
    obtain ⟨isRun, isTry⟩ := Bool.and_eq_true_iff.mp isTry
    refine ⟨entry, isEntry, of_decide_eq_true isRun, ?_⟩
    unfold isLogin at isTry
    split at isTry
    next id req asked => exact ⟨id, req, asked, of_decide_eq_true isTry⟩
    next => cases isTry
  have limited := limits_hold_under_load served_sixLogins
  refine ⟨?_, by decide +kernel, by decide +kernel, ?_, ?_⟩
  · intro run isEarly
    have member := List.mem_range.mpr isEarly
    obtain ⟨_, isStatus⟩ := Bool.and_eq_true_iff.mp (evaluated run member)
    exact ⟨tries run member, beq_iff_eq.mp isStatus⟩
  · exact limited.1 "login-email" 5 "u@example.org" 0 (by decide)
  · exact limited.2 "login-email:u@example.org" 0 (List.range 5)
      List.nodup_range fun run member =>
        ⟨tries run member, fun entry isEntry _ _ => early entry isEntry⟩

end TicketWave.Gateway.Api
