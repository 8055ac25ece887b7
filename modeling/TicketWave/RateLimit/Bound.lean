import TicketWave.Library.Windows
import TicketWave.RateLimit.Limiter

/-!
# The bound of the rate limiter

A counter lives from the attempt that finds none for the window's whole
milliseconds, and the lives do not overlap.
-/

namespace TicketWave.RateLimit

open Library

def trace (store : Store) : List Call → List (Call × Reply)
  | [] => []
  | call :: rest =>
      (call, (allow store call).1) :: trace (allow store call).2 rest

def final (store : Store) : List Call → Store
  | [] => store
  | call :: rest => final (allow store call).2 rest

def onKey (key : String) (call : Call) : Bool :=
  decide (call.key = key)

/-- The attempts on the key, with their times. -/
def attemptsOn (key : String) (served : List (Call × Reply)) :
    List (Nat × Reply) :=
  (served.filter fun pair => onKey key pair.1).map fun pair =>
    (pair.1.time, pair.2)

/-- The attempts on one key by themselves. -/
def attempts (limit window : Int) :
    Option Entry → List Nat → List (Nat × Reply)
  | _, [] => []
  | stored, time :: rest =>
      (time, (attempt limit window (clock time) stored).1) ::
        attempts limit window (attempt limit window (clock time) stored).2 rest

/-- What is stored after them. -/
def leftBy (limit window : Int) : Option Entry → List Nat → Option Entry
  | stored, [] => stored
  | stored, time :: rest =>
      leftBy limit window (attempt limit window (clock time) stored).2 rest

theorem attempts_append
    (limit window : Int) (stored : Option Entry) (first rest : List Nat) :
    attempts limit window stored (first ++ rest) =
      attempts limit window stored first ++
        attempts limit window (leftBy limit window stored first) rest := by
  induction first generalizing stored with
  | nil => rfl
  | cons time first ih =>
      rw [List.cons_append, attempts, attempts, ih, leftBy, List.cons_append]

theorem map_fst_attempts
    (limit window : Int) (stored : Option Entry) (times : List Nat) :
    (attempts limit window stored times).map Prod.fst = times := by
  induction times generalizing stored with
  | nil => rfl
  | cons time rest ih => rw [attempts, List.map_cons, ih]

theorem length_attempts
    (limit window : Int) (stored : Option Entry) (times : List Nat) :
    (attempts limit window stored times).length = times.length := by
  rw [← List.length_map Prod.fst, map_fst_attempts]

/-- The calls on the key use one limit and one window. -/
def Consistent (key : String) (limit window : Int) (calls : List Call) : Prop :=
  ∀ call ∈ calls, call.key = key → call.limit = limit ∧ call.window = window

variable {limit window : Int} {key : String} {calls : List Call}
  {store : Store} {stored : Option Entry} {length made now deadline time : Nat}
  {lives : List Window}

theorem attemptsOn_cons
    (call : Call) (reply : Reply) (served : List (Call × Reply)) :
    attemptsOn key ((call, reply) :: served) =
      if onKey key call then (call.time, reply) :: attemptsOn key served
      else attemptsOn key served := by
  unfold attemptsOn
  rw [List.filter_cons]
  split <;> rfl

/-- What the attempts on a key get depends on nothing else. -/
theorem attemptsOn_trace (consistent : Consistent key limit window calls) :
    attemptsOn key (trace store calls) =
      attempts limit window (store (redisKey key))
        ((calls.filter (onKey key)).map Call.time) := by
  induction calls generalizing store with
  | nil => rfl
  | cons call rest ih =>
      have restConsistent : Consistent key limit window rest :=
        fun other member => consistent other (List.mem_cons_of_mem call member)
      have later := @ih (allow store call).2 restConsistent
      rw [trace, attemptsOn_cons, later, List.filter_cons]
      by_cases same : call.key = key
      · obtain ⟨isLimit, isWindow⟩ := consistent call List.mem_cons_self same
        subst same isLimit isWindow
        have picked : onKey call.key call = true := decide_eq_true rfl
        rw [if_pos picked, if_pos picked, allow_self]
        rfl
      · have skipped : ¬ onKey key call = true := by
          simp [onKey, same]
        rw [if_neg skipped, if_neg skipped, allow_of_ne same]

theorem final_of_ne (others : ∀ call ∈ calls, call.key ≠ key) :
    final store calls (redisKey key) = store (redisKey key) := by
  induction calls generalizing store with
  | nil => rfl
  | cons call rest ih =>
      obtain ⟨different, differentRest⟩ := List.forall_mem_cons.mp others
      rw [final, ih differentRest, allow_of_ne different]

/-- The counter after `number` attempts of its life. -/
def counted (number deadline : Nat) : Option Entry :=
  some ⟨.integer (min (number : Int) maxInt64), some deadline⟩

/-- Whether the attempt is allowed, and how many remain. -/
def outcome (reply : Reply) : Bool × Int :=
  (reply.result.allowed, reply.result.remaining)

/-- What the attempt with this number of a life gets. -/
def numbered (limit : Int) (number : Nat) : Bool × Int :=
  (decide ((number : Int) ≤ limit), max 0 (limit - number))

/-- What it gets from the script: beyond `maxInt64` nothing is counted, and the
number comes back as a double. -/
def reported (limit : Int) (number : Nat) : Bool × Int :=
  if (number : Int) ≤ maxInt64 then
    outcome ⟨result limit (viaDouble number) 0, false⟩
  else
    (false, 0)

/-- The numbers that the doubles of the script leave apart. -/
def Exact (limit : Int) (number : Nat) : Prop :=
  number ≤ 9007199254740992 ∨
    limit < 9007199254740992 ∧ (number : Int) < roundsOut

theorem outcome_result (nonnegative : 0 ≤ limit) (fits : limit ≤ maxInt64)
    {number : Int} (positive : 0 < number) (small : number ≤ maxInt64) :
    outcome ⟨result limit number 0, false⟩ =
      (decide (number ≤ limit), max 0 (limit - number)) := by
  have isExact : int64 (limit - number) = limit - number :=
    int64_of_range (by omega) (by omega)
  have floor :
      (if limit - number < 0 then 0 else limit - number) =
        max 0 (limit - number) := by
    omega
  rw [outcome, result]
  dsimp only
  rw [isExact, floor]

theorem reported_of_exact (nonnegative : 0 ≤ limit) (fits : limit ≤ maxInt64)
    {number : Nat} (positive : 0 < number) (exact : Exact limit number) :
    reported limit number = numbered limit number := by
  by_cases small : number ≤ 9007199254740992
  · have counts : (number : Int) ≤ maxInt64 := by
      unfold maxInt64
      omega
    rw [reported, if_pos counts, viaDouble_of_small (by omega),
      outcome_result nonnegative fits (by omega) counts]
    rfl
  · obtain ⟨low, readable⟩ := exact.resolve_left small
    have counts : (number : Int) ≤ maxInt64 := by
      unfold maxInt64
      unfold roundsOut at readable
      omega
    have least := le_viaDouble (by omega) readable
    have most : viaDouble number ≤ maxInt64 :=
      Int.le_of_lt_add_one (viaDouble_lt number)
    rw [reported, if_pos counts, numbered,
      outcome_result nonnegative fits (by omega) most, Prod.mk.injEq,
      decide_eq_decide]
    omega

/-- With a limit of `2 ^ 53` or more, the next number is taken for it. -/
theorem reported_ne_of_large
    (large : 9007199254740992 ≤ limit) (fits : limit ≤ maxInt64) :
    reported limit 9007199254740993 ≠ numbered limit 9007199254740993 := by
  have rounded : viaDouble 9007199254740993 = 9007199254740992 := by
    decide +kernel
  have counts : ((9007199254740993 : Nat) : Int) ≤ maxInt64 := by decide
  intro same
  rw [reported, if_pos counts, numbered, Nat.cast_ofNat, rounded,
    outcome_result (by omega) fits (by omega) (by decide), Prod.mk.injEq,
    decide_eq_decide] at same
  omega

/-- A number that rounds out of the range is taken for the least one. -/
theorem reported_ne_of_roundsOut
    (nonnegative : 0 ≤ limit) (low : limit < 9007199254740992) :
    reported limit 9223372036854775296 ≠ numbered limit 9223372036854775296 := by
  have rounded :
      viaDouble 9223372036854775296 = -9223372036854775808 :=
    viaDouble_of_roundsOut (by decide) (by decide)
  have counts : ((9223372036854775296 : Nat) : Int) ≤ maxInt64 := by decide
  intro same
  rw [reported, if_pos counts, Nat.cast_ofNat, rounded] at same
  have allowed :
      decide ((-9223372036854775808 : Int) ≤ limit) =
        decide (((9223372036854775296 : Nat) : Int) ≤ limit) :=
    congrArg Prod.fst same
  rw [decide_eq_decide] at allowed
  omega

theorem attempt_opens (absent : current now stored = none)
    (positive : 0 < length) (isLength : milliseconds window = length) :
    outcome (attempt limit window now stored).1 = reported limit 1 ∧
      (attempt limit window now stored).2 = counted 1 (now + length) := by
  rw [attempt_of_absent absent positive isLength, reported,
    if_pos (by decide), Nat.cast_one, viaDouble_one]
  exact ⟨rfl, rfl⟩

theorem attempt_continues
    {number : Nat} (positive : 0 < number) (alive : now < deadline) :
    outcome (attempt limit window now (counted number deadline)).1 =
        reported limit (number + 1) ∧
      (attempt limit window now (counted number deadline)).2 =
        counted (number + 1) deadline := by
  by_cases room : (number : Int) < maxInt64
  · have isNumber : min (number : Int) maxInt64 = number := by omega
    have isNext : min ((number + 1 : Nat) : Int) maxInt64 = number + 1 := by
      omega
    rw [counted, isNumber, counted, isNext,
      attempt_of_counting (by omega) room alive, reported, if_pos (by omega)]
    exact ⟨rfl, rfl⟩
  · have isFull : min (number : Int) maxInt64 = maxInt64 := by omega
    have staysFull : min ((number + 1 : Nat) : Int) maxInt64 = maxInt64 := by
      omega
    rw [counted, isFull, counted, staysFull, attempt_of_full le_rfl alive,
      reported, if_neg (by omega)]
    exact ⟨rfl, rfl⟩

theorem attempts_of_counted {number : Nat} (positive : 0 < number)
    {times : List Nat} (alive : ∀ time ∈ times, clock time < deadline) :
    (attempts limit window (counted number deadline) times).map
          (fun pair => outcome pair.2) =
        (List.range' (number + 1) times.length).map (reported limit) ∧
      leftBy limit window (counted number deadline) times =
        counted (number + times.length) deadline := by
  induction times generalizing number with
  | nil => exact ⟨rfl, rfl⟩
  | cons time rest ih =>
      obtain ⟨aliveNow, aliveLater⟩ := List.forall_mem_cons.mp alive
      obtain ⟨gets, leaves⟩ :=
        @attempt_continues limit window _ _ number positive aliveNow
      obtain ⟨getLater, leavesLater⟩ := ih (Nat.succ_pos number) aliveLater
      constructor
      · rw [attempts, List.map_cons, gets, leaves, getLater,
          List.length_cons, List.range'_succ, List.map_cons]
      · rw [leftBy, leaves, leavesLater, List.length_cons,
          Nat.succ_add_eq_add_succ]

theorem attempts_of_absent
    (absent : current (clock time) stored = none) (positive : 0 < length)
    (isLength : milliseconds window = length) {times : List Nat}
    (alive : ∀ later ∈ times, clock later < clock time + length) :
    (attempts limit window stored (time :: times)).map
          (fun pair => outcome pair.2) =
        (List.range' 1 (times.length + 1)).map (reported limit) ∧
      leftBy limit window stored (time :: times) =
        counted (1 + times.length) (clock time + length) := by
  obtain ⟨gets, leaves⟩ :=
    @attempt_opens limit window _ _ _ absent positive isLength
  obtain ⟨getLater, leavesLater⟩ :=
    @attempts_of_counted limit window _ 1 Nat.one_pos _ alive
  rw [attempts, leftBy, leaves, List.map_cons, gets, getLater, leavesLater,
    List.range'_succ, List.map_cons]
  exact ⟨rfl, rfl⟩

/-- The part of a life that has the allowed attempts: with a limit of one it is
the millisecond of the attempt that opens it. -/
def markedPart (limit : Int) (length : Nat) : Nat :=
  if limit = 1 then 1000000 else length * 1000000

theorem allowed_of_outcome (nonnegative : 0 ≤ limit)
    (low : limit < 9007199254740992) {reply : Reply} {number : Nat}
    (positive : 0 < number) (readable : (number : Int) < roundsOut)
    (gets : outcome reply = reported limit number) :
    reply.result.allowed = decide ((number : Int) ≤ limit) := by
  have fits : limit ≤ maxInt64 := by
    unfold maxInt64
    omega
  rw [reported_of_exact nonnegative fits positive (Or.inr ⟨low, readable⟩)]
    at gets
  exact congrArg Prod.fst gets

/-- The lives of the key's counter so far, newest first, with the attempts
that were allowed in each of them, and a bound for the attempts made. -/
structure Tracks
    (limit : Int) (length made : Nat) (stored : Option Entry)
    (lives : List Window) : Prop where
  spaced : Spaced (length * 1000000) (markedPart limit length) limit.toNat lives
  newest :
    lives = [] ∧ stored = none ∨
      ∃ life rest number start,
        lives = life :: rest ∧ 0 < number ∧ number ≤ made ∧
          stored = counted number (start + length) ∧
          life.start = start * 1000000 ∧
          life.marks.length = min number limit.toNat

theorem Tracks.empty : Tracks limit length 0 none [] where
  spaced := Spaced.nil
  newest := Or.inl ⟨rfl, rfl⟩

theorem clock_bounds (time : Nat) :
    clock time * 1000000 ≤ time ∧ time < clock time * 1000000 + 1000000 := by
  unfold clock
  omega

theorem Tracks.ended (tracks : Tracks limit length made stored lives)
    (absent : current now stored = none) :
    ∀ life ∈ lives, life.start + length * 1000000 ≤ now * 1000000 := by
  obtain ⟨isEmpty, _⟩ | ⟨newest, rest, number, start, isLives, _, _,
    isStored, isStart, _⟩ := tracks.newest
  · rw [isEmpty]
    exact fun life member => absurd member List.not_mem_nil
  · have ended : start + length ≤ now := by
      by_contra alive
      rw [isStored, counted, current_of_alive _ (Nat.not_le.mp alive)] at absent
      exact Option.some_ne_none _ absent
    have spaced := tracks.spaced
    rw [isLives] at spaced ⊢
    have isOver : newest.start + length * 1000000 ≤ now * 1000000 := by omega
    refine List.forall_mem_cons.mpr ⟨isOver, ?_⟩
    intro older member
    have before := (List.pairwise_cons.mp spaced.apart).1 older member
    omega

theorem Tracks.alive (tracks : Tracks limit length made stored lives)
    {entry : Entry} (found : current now stored = some entry) :
    ∃ life rest number start,
      lives = life :: rest ∧ 0 < number ∧ number ≤ made ∧
        stored = counted number (start + length) ∧ now < start + length ∧
        life.start = start * 1000000 ∧
        life.marks.length = min number limit.toNat := by
  obtain ⟨_, isNone⟩ | ⟨life, rest, number, start, isLives, positive, isMade,
    isStored, isStart, isCount⟩ := tracks.newest
  · rw [isNone] at found
    cases found
  · refine ⟨life, rest, number, start, isLives, positive, isMade, isStored, ?_,
      isStart, isCount⟩
    by_contra ended
    rw [isStored, counted, current_of_expired _ (Nat.not_lt.mp ended)] at found
    cases found

/-- The marks of a life when an attempt is made in it. -/
def marked (allowed : Bool) (time : Nat) (old : List Nat) : List Nat :=
  if allowed then time :: old else old

theorem countP_marked (allowed : Bool) (old : List Nat) (test : Nat → Bool) :
    (marked allowed time old).countP test =
      old.countP test + if allowed && test time then 1 else 0 := by
  cases allowed with
  | false => rfl
  | true => rw [marked, if_pos rfl, List.countP_cons, Bool.true_and]

/-- The lives after an attempt, and the mark that it makes. -/
def Grows (lives next : List Window) (time : Nat) (allowed : Bool) : Prop :=
  (∀ life ∈ next, life.start ≤ time) ∧
    ∀ test : Nat → Bool,
      (marks next).countP test =
        (marks lives).countP test + if allowed && test time then 1 else 0

theorem Tracks.opens (positive : 0 < length)
    (tracks : Tracks limit length made stored lives)
    (begun : ∀ life ∈ lives, life.start ≤ time)
    (absent : current (clock time) stored = none) :
    ∃ next,
      Tracks limit length (made + 1) (counted 1 (clock time + length))
          next ∧
        Grows lives next time (decide (1 ≤ limit)) := by
  obtain ⟨least, most⟩ := clock_bounds time
  have isCount :
      (marked (decide (1 ≤ limit)) time []).length = min 1 limit.toNat := by
    by_cases room : 1 ≤ limit
    · have isOne : min 1 limit.toNat = 1 := by omega
      rw [isOne, decide_eq_true room]
      rfl
    · have isZero : min 1 limit.toNat = 0 := by omega
      rw [isZero, decide_eq_false room]
      rfl
  have inside :
      ∀ mark ∈ marked (decide (1 ≤ limit)) time [],
        clock time * 1000000 ≤ mark ∧
          mark < clock time * 1000000 + markedPart limit length := by
    intro mark member
    have long : 1000000 ≤ markedPart limit length := by
      unfold markedPart
      split <;> omega
    have isTime : mark = time := by
      unfold marked at member
      split at member
      · exact List.mem_singleton.mp member
      · cases member
    omega
  refine ⟨⟨clock time * 1000000, marked (decide (1 ≤ limit)) time []⟩ :: lives,
    ⟨tracks.spaced.cons (tracks.ended absent) inside ?_,
      Or.inr
        ⟨_, lives, 1, clock time, rfl, Nat.one_pos, Nat.le_add_left 1 made,
          rfl, rfl, isCount⟩⟩,
    List.forall_mem_cons.mpr ⟨least, begun⟩, ?_⟩
  · exact isCount ▸ Nat.min_le_right 1 _
  · intro test
    rw [countP_marks_cons, countP_marked, List.countP_nil]
    omega

theorem Tracks.continues (nonnegative : 0 ≤ limit)
    (tracks : Tracks limit length made stored lives)
    (begun : ∀ life ∈ lives, life.start ≤ time) {life : Window}
    {rest : List Window} {number start : Nat} (isPositive : 0 < number)
    (isMade : number ≤ made) (isLives : lives = life :: rest)
    (isStart : life.start = start * 1000000)
    (isCount : life.marks.length = min number limit.toNat)
    (alive : clock time < start + length) :
    ∃ next,
      Tracks limit length (made + 1) (counted (number + 1) (start + length))
          next ∧
        Grows lives next time (decide (((number + 1 : Nat) : Int) ≤ limit)) := by
  subst isLives
  obtain ⟨least, most⟩ := clock_bounds time
  obtain ⟨begunNow, begunBefore⟩ := List.forall_mem_cons.mp begun
  by_cases room : ((number + 1 : Nat) : Int) ≤ limit
  · have inside :
        life.start ≤ time ∧ time < life.start + markedPart limit length := by
      rw [markedPart, if_neg (by omega)]
      omega
    refine ⟨{ life with marks := time :: life.marks } :: rest,
      ⟨tracks.spaced.mark inside (by omega),
        Or.inr
          ⟨_, rest, number + 1, start, rfl, Nat.succ_pos number,
            Nat.succ_le_succ isMade, rfl, isStart, ?_⟩⟩,
      List.forall_mem_cons.mpr ⟨begunNow, begunBefore⟩, ?_⟩
    · rw [List.length_cons, isCount]
      omega
    · intro test
      rw [countP_marks_cons, countP_marks_cons, decide_eq_true room,
        List.countP_cons, Bool.true_and]
      omega
  · refine ⟨life :: rest,
      ⟨tracks.spaced,
        Or.inr
          ⟨life, rest, number + 1, start, rfl, Nat.succ_pos number,
            Nat.succ_le_succ isMade, rfl, isStart, ?_⟩⟩,
      begun, ?_⟩
    · rw [isCount]
      omega
    · intro test
      rw [decide_eq_false room]
      rfl

theorem Tracks.step (nonnegative : 0 ≤ limit) (low : limit < 9007199254740992)
    (positive : 0 < length) (isLength : milliseconds window = length)
    (tracks : Tracks limit length made stored lives)
    (readable : ((made + 1 : Nat) : Int) < roundsOut)
    (begun : ∀ life ∈ lives, life.start ≤ time) :
    ∃ next,
      Tracks limit length (made + 1)
          (attempt limit window (clock time) stored).2 next ∧
        Grows lives next time
          (attempt limit window (clock time) stored).1.result.allowed := by
  cases found : current (clock time) stored with
  | none =>
      obtain ⟨gets, leaves⟩ :=
        @attempt_opens limit window _ _ _ found positive isLength
      rw [leaves,
        allowed_of_outcome nonnegative low Nat.one_pos (by decide) gets]
      exact tracks.opens positive begun found
  | some entry =>
      obtain ⟨life, rest, number, start, isLives, isPositive, isMade, isStored,
        alive, isStart, isCount⟩ := tracks.alive found
      obtain ⟨gets, leaves⟩ :=
        @attempt_continues limit window _ _ number isPositive alive
      rw [← isStored] at gets leaves
      rw [leaves,
        allowed_of_outcome nonnegative low (Nat.succ_pos number) (by omega)
          gets]
      exact tracks.continues nonnegative begun isPositive isMade isLives isStart
        isCount alive

/-- The allowed attempts of the key lie in lives that are apart. -/
theorem Tracks.run (nonnegative : 0 ≤ limit) (low : limit < 9007199254740992)
    (positive : 0 < length) (isLength : milliseconds window = length)
    {times : List Nat} (ordered : times.Pairwise (· ≤ ·))
    (tracks : Tracks limit length made stored lives)
    (readable : ((made + times.length : Nat) : Int) < roundsOut)
    (begun : ∀ life ∈ lives, ∀ time ∈ times, life.start ≤ time) :
    ∃ all,
      Spaced (length * 1000000) (markedPart limit length) limit.toNat all ∧
        ∀ test : Nat → Bool,
          (marks all).countP test =
            (marks lives).countP test +
              (attempts limit window stored times).countP fun pair =>
                pair.2.result.allowed && test pair.1 := by
  induction times generalizing made stored lives with
  | nil => exact ⟨lives, tracks.spaced, fun test => rfl⟩
  | cons time rest ih =>
      obtain ⟨isFirst, orderedRest⟩ := List.pairwise_cons.mp ordered
      rw [List.length_cons] at readable
      obtain ⟨next, tracksNext, begunNext, grows⟩ :=
        tracks.step nonnegative low positive isLength (by omega)
          fun life member => begun life member time List.mem_cons_self
      obtain ⟨all, spaced, counts⟩ :=
        ih orderedRest tracksNext (by omega)
          fun life member later isLater =>
            Nat.le_trans (begunNext life member) (isFirst later isLater)
      refine ⟨all, spaced, ?_⟩
      intro test
      rw [counts test, grows test, attempts, List.countP_cons]
      dsimp only
      omega

/-- A settled value is gone from its deadline on, whatever is sent on any keys
before. -/
theorem final_expires {value : Value} (settled : value.settled)
    (isStored : store (redisKey key) = some ⟨value, some deadline⟩)
    (before : ∀ call ∈ calls, clock call.time < deadline)
    (expired : deadline ≤ now) :
    current now (final store calls (redisKey key)) = none := by
  induction calls generalizing store value with
  | nil =>
      rw [final, isStored]
      exact current_of_expired _ expired
  | cons call rest ih =>
      obtain ⟨alive, beforeRest⟩ := List.forall_mem_cons.mp before
      by_cases same : call.key = key
      · obtain ⟨next, settledNext, leaves⟩ :=
          @attempt_keeps call.limit call.window _ _ _ settled alive
        refine ih settledNext ?_ beforeRest
        subst same
        rw [allow_self, isStored, leaves]
      · refine ih settled ?_ beforeRest
        rw [allow_of_ne same, isStored]

def within (begins window : Int) (time : Nat) : Bool :=
  decide (begins ≤ time) && decide ((time : Int) < begins + window)

/-- The number of attempts allowed in the half-open interval. -/
def allowedWithin (begins window : Int) (made : List (Nat × Reply)) : Nat :=
  made.countP fun pair => pair.2.result.allowed && within begins window pair.1

theorem allowedWithin_le (nonnegative : 0 ≤ limit)
    (low : limit < 9007199254740992) (wide : millisecond ≤ window)
    (kept :
      limit = 0 ∨ window % millisecond ≤ 1 ∨
        limit = 1 ∧ 2 * millisecond ≤ window) {times : List Nat}
    (ordered : times.Pairwise (· ≤ ·))
    (readable : (times.length : Int) < roundsOut) (begins : Int) :
    (allowedWithin begins window (attempts limit window none times) : Int) ≤
      2 * limit := by
  obtain ⟨length, positive, isLength, most, least⟩ := milliseconds_of_le wide
  obtain ⟨all, spaced, counts⟩ :=
    Tracks.empty.run nonnegative low positive isLength ordered
      (by omega) fun life member => absurd member List.not_mem_nil
  have isMade :
      (marks all).countP (within begins window) =
        allowedWithin begins window (attempts limit window none times) :=
    (counts _).trans (Nat.zero_add _)
  by_cases isZero : limit = 0
  · have none : (marks all).countP (within begins window) = 0 := by
      rw [List.countP_eq_zero]
      intro mark member
      obtain ⟨life, isLife, inLife⟩ := List.mem_flatMap.mp member
      have few := spaced.few life isLife
      have some := List.length_pos_of_mem inLife
      omega
    omega
  · have narrow :
        ∀ left right, within begins window left = true →
          within begins window right = true →
          right + markedPart limit length ≤ left + 2 * (length * 1000000) := by
      intro left right isLeft isRight
      unfold millisecond at *
      simp only [within, Bool.and_eq_true, decide_eq_true_eq] at isLeft isRight
      unfold markedPart
      split <;> omega
    have bound := spaced.countP_le_two_mul narrow
    omega

theorem allowedWithin_append
    (begins window : Int) (first rest : List (Nat × Reply)) :
    allowedWithin begins window (first ++ rest) =
      allowedWithin begins window first + allowedWithin begins window rest :=
  List.countP_append

theorem allowedWithin_of_few
    (nonnegative : 0 ≤ limit) (low : limit < 9007199254740992)
    (absent : current (clock time) stored = none) (positive : 0 < length)
    (isLength : milliseconds window = length) {times : List Nat}
    (alive : ∀ later ∈ times, clock later < clock time + length)
    (few : ((times.length + 1 : Nat) : Int) ≤ limit) (begins : Int) :
    allowedWithin begins window
        (attempts limit window stored (time :: times)) =
      (time :: times).countP (within begins window) := by
  obtain ⟨gets, _⟩ :=
    @attempts_of_absent limit window _ _ _ absent positive isLength _ alive
  have allowed :
      ∀ pair ∈ attempts limit window stored (time :: times),
        pair.2.result.allowed = true := by
    intro pair member
    have isReported :=
      List.mem_map_of_mem (f := fun pair : Nat × Reply => outcome pair.2)
        member
    rw [gets] at isReported
    obtain ⟨number, inRange, same⟩ := List.mem_map.mp isReported
    rw [List.mem_range'_1] at inRange
    rw [allowed_of_outcome nonnegative low inRange.1
      (by unfold roundsOut; omega) same.symm, decide_eq_true_eq]
    omega
  have isTimes :
      (time :: times).countP (within begins window) =
        (attempts limit window stored (time :: times)).countP
          (within begins window ∘ Prod.fst) := by
    rw [← List.countP_map, map_fst_attempts]
  rw [isTimes]
  apply List.countP_congr
  intro pair member
  rw [allowed pair member, Bool.true_and]
  rfl

theorem life_of_replicate
    {more moment : Nat} (low : ((more + 1 : Nat) : Int) < 9007199254740992)
    (absent : current (clock time) stored = none) (positive : 0 < length)
    (isLength : milliseconds window = length)
    (alive : clock moment < clock time + length) :
    leftBy ((more + 1 : Nat) : Int) window stored
          (time :: List.replicate more moment) =
        counted (1 + more) (clock time + length) ∧
      ∀ begins,
        allowedWithin begins window
            (attempts ((more + 1 : Nat) : Int) window stored
              (time :: List.replicate more moment)) =
          (if within begins window moment then more else 0) +
            if within begins window time then 1 else 0 := by
  have aliveAll :
      ∀ later ∈ List.replicate more moment,
        clock later < clock time + length := by
    intro later member
    rw [List.eq_of_mem_replicate member]
    exact alive
  have isLeft :=
    (@attempts_of_absent ((more + 1 : Nat) : Int) window _ _ _ absent positive
      isLength _ aliveAll).2
  rw [List.length_replicate] at isLeft
  refine ⟨isLeft, fun begins => ?_⟩
  rw [allowedWithin_of_few (by omega) low absent positive isLength aliveAll
      (by rw [List.length_replicate]),
    List.countP_cons, List.countP_replicate]

/-- As many attempts as are allowed in each of three lives, those of the first
as late as they can be. -/
def crowded (more length : Nat) : List Nat :=
  (if length = 1 then 999999 else 0) ::
      List.replicate more (length * 1000000 - 1) ++
    (length * 1000000 :: List.replicate more (length * 1000000) ++
      2 * length * 1000000 :: List.replicate more (2 * length * 1000000))

theorem crowded_pairwise (more : Nat) (positive : 0 < length) :
    (crowded more length).Pairwise (· ≤ ·) := by
  unfold crowded
  simp only [List.cons_append, List.pairwise_cons, List.pairwise_append,
    List.pairwise_replicate, List.mem_append, List.mem_cons,
    List.mem_replicate]
  split <;> grind

/-- Where the window has a fraction of a millisecond, an interval of its length
can meet three lives. -/
theorem two_mul_lt_allowedWithin (nonnegative : 0 ≤ limit)
    (low : limit < 9007199254740992) (wide : millisecond ≤ window)
    (broken :
      ¬ (limit = 0 ∨ window % millisecond ≤ 1 ∨
        limit = 1 ∧ 2 * millisecond ≤ window)) :
    ∃ (times : List Nat) (begins : Int),
      times.Pairwise (· ≤ ·) ∧ (times.length : Int) < roundsOut ∧
        2 * limit <
          allowedWithin begins window (attempts limit window none times) := by
  obtain ⟨length, positive, isLength, most, least⟩ := milliseconds_of_le wide
  obtain ⟨more, rfl⟩ : ∃ more : Nat, limit = ((more + 1 : Nat) : Int) :=
    ⟨(limit - 1).toNat, by omega⟩
  have opening : clock (if length = 1 then 999999 else 0) = 0 := by
    split <;> rfl
  have isSecond : clock (length * 1000000) = length := by
    unfold clock
    omega
  have isThird : clock (2 * length * 1000000) = 2 * length := by
    unfold clock
    omega
  have firstAlive :
      clock (length * 1000000 - 1) <
        clock (if length = 1 then 999999 else 0) + length := by
    rw [opening]
    unfold clock
    omega
  have secondAbsent :
      current (clock (length * 1000000))
        (counted (1 + more)
          (clock (if length = 1 then 999999 else 0) + length)) = none :=
    current_of_expired _ (by omega)
  have thirdAbsent :
      current (clock (2 * length * 1000000))
        (counted (1 + more) (clock (length * 1000000) + length)) = none :=
    current_of_expired _ (by omega)
  obtain ⟨firstLeft, inFirst⟩ :=
    @life_of_replicate window none _ _ _ _ low rfl positive isLength firstAlive
  obtain ⟨secondLeft, inSecond⟩ :=
    @life_of_replicate window _ _ _ more (length * 1000000) low secondAbsent
      positive isLength (by omega)
  obtain ⟨_, inThird⟩ :=
    @life_of_replicate window _ _ _ more (2 * length * 1000000) low thirdAbsent
      positive isLength (by omega)
  refine ⟨crowded more length, length * 1000000 - 1,
    crowded_pairwise more positive, ?_, ?_⟩
  · simp only [crowded, List.length_append, List.length_cons,
      List.length_replicate]
    unfold roundsOut
    omega
  · rw [crowded, attempts_append, firstLeft, attempts_append, secondLeft,
      allowedWithin_append, allowedWithin_append, inFirst, inSecond, inThird]
    unfold millisecond at *
    simp only [within, Bool.and_eq_true, decide_eq_true_eq]
    split_ifs <;> omega

theorem mem_filter_alive {during : List Call} {ending : Nat}
    (alive : ∀ call ∈ during, clock call.time < ending) :
    ∀ time ∈ (during.filter (onKey key)).map Call.time,
      clock time < ending := by
  intro time member
  obtain ⟨call, isCall, isTime⟩ := List.mem_map.mp member
  rw [← isTime]
  exact alive call (List.mem_of_mem_filter isCall)

/-- The attempts get what the first, second, third, … attempt of a life
gets. -/
def NumberedOn (limit : Int) (made : List (Nat × Reply)) : Prop :=
  made.map (fun pair => outcome pair.2) =
    (List.range' 1 made.length).map (numbered limit)

theorem reported_eq_numbered_iff
    (nonnegative : 0 ≤ limit) (fits : limit ≤ maxInt64) (length : Nat) :
    (List.range' 1 length).map (reported limit) =
        (List.range' 1 length).map (numbered limit) ↔
      Exact limit length := by
  rw [List.map_inj_left]
  constructor
  · intro same
    by_contra inexact
    have many : 9007199254740992 < length := by
      by_contra few
      exact inexact (Or.inl (Nat.not_lt.mp few))
    by_cases low : limit < 9007199254740992
    · have out : ¬ (length : Int) < roundsOut := fun readable =>
        inexact (Or.inr ⟨low, readable⟩)
      unfold roundsOut at out
      refine reported_ne_of_roundsOut nonnegative low (same _ ?_)
      rw [List.mem_range'_1]
      omega
    · refine reported_ne_of_large (Int.not_lt.mp low) fits (same _ ?_)
      rw [List.mem_range'_1]
      omega
  · intro exact number inRange
    rw [List.mem_range'_1] at inRange
    refine reported_of_exact nonnegative fits inRange.1 ?_
    unfold Exact at *
    omega

theorem numberedOn_life (nonnegative : 0 ≤ limit) (fits : limit ≤ maxInt64)
    (wide : millisecond ≤ window) {first : Call} {during : List Call}
    (consistent : Consistent key limit window (first :: during))
    (isKey : first.key = key)
    (absent : current (clock first.time) (store (redisKey key)) = none)
    (alive :
      ∀ call ∈ during,
        (clock call.time : Int) < clock first.time + milliseconds window) :
    NumberedOn limit (attemptsOn key (trace store (first :: during))) ↔
      Exact limit
        (attemptsOn key (trace store (first :: during))).length := by
  obtain ⟨length, positive, isLength, _⟩ := milliseconds_of_le wide
  have picked : onKey key first = true := decide_eq_true isKey
  have aliveOn :
      ∀ call ∈ during, clock call.time < clock first.time + length := by
    intro call member
    have early := alive call member
    omega
  have isReported :=
    (@attempts_of_absent limit window _ _ _ absent positive isLength _
      (@mem_filter_alive key _ _ aliveOn)).1
  unfold NumberedOn
  rw [attemptsOn_trace consistent, List.filter_cons_of_pos picked,
    List.map_cons, isReported, length_attempts, List.length_cons]
  exact reported_eq_numbered_iff nonnegative fits _

/-- After the call there is a deadline, at most a window later unless it was
there before, and what has refused the call is gone from then on, whatever is
sent before. -/
def Expires (store : Store) (call : Call) : Prop :=
  ∃ deadline : Nat,
    deadlineOf ((allow store call).2 (redisKey call.key)) = some deadline ∧
    clock call.time < deadline ∧
    (deadline * millisecond ≤ call.time + call.window ∨
      deadlineOf (current (clock call.time) (store (redisKey call.key))) =
        some deadline) ∧
    ((allow store call).1.result.allowed = false →
      ∀ later now, (∀ next ∈ later, clock next.time < deadline) →
        deadline ≤ now →
        current now (final (allow store call).2 later (redisKey call.key)) =
          none)

theorem pos_of_refused {count : Int} (nonnegative : 0 ≤ limit)
    (refused : ¬ viaDouble count ≤ limit) : 0 < count := by
  by_contra isNot
  apply refused
  by_cases small : count.natAbs ≤ 9007199254740992
  · rw [viaDouble_of_small small]
    omega
  · have negative : nearest count < 0 := nearest_neg_iff.mpr (by omega)
    unfold viaDouble truncated
    split <;> omega

theorem expires_of_counts {call : Call} (nonnegative : 0 ≤ call.limit)
    (wide : millisecond ≤ call.window)
    (counts :
      incr (current (clock call.time) (store (redisKey call.key))) ≠ none) :
    Expires store call := by
  obtain ⟨count, deadline, isAttempt, alive, soon, _⟩ :=
    @attempt_of_counts call.limit _ _ _ wide counts
  have leaves :
      (allow store call).2 (redisKey call.key) =
        some ⟨.integer count, some deadline⟩ := by
    rw [allow_self, isAttempt]
  have gets :
      (allow store call).1.result.allowed =
        decide (viaDouble count ≤ call.limit) := by
    rw [allow, isAttempt]
    rfl
  refine ⟨deadline, ?_, alive, ?_, ?_⟩
  · rw [leaves]
    rfl
  · refine soon.imp_left fun left => ?_
    have least := (clock_bounds call.time).1
    unfold millisecond at *
    omega
  · intro refused later now before expired
    rw [gets] at refused
    have settled : (Value.integer count).settled :=
      pos_of_refused nonnegative (of_decide_eq_false refused)
    exact final_expires settled leaves before expired

theorem allow_of_refused {call : Call}
    (refused :
      incr (current (clock call.time) (store (redisKey call.key))) = none) :
    ∃ entry : Entry,
      entry.value.settled ∧ entry.live (clock call.time) = true ∧
        store (redisKey call.key) = some entry ∧
        (allow store call).2 (redisKey call.key) = some entry := by
  cases found : current (clock call.time) (store (redisKey call.key)) with
  | none =>
      rw [found] at refused
      cases refused
  | some entry =>
      obtain ⟨isStored, live⟩ := Option.filter_eq_some_iff.mp found
      refine ⟨entry, ?_, live, isStored, ?_⟩
      · obtain ⟨value, deadline⟩ := entry
        cases value with
        | other => trivial
        | integer count =>
            by_contra isNot
            rw [found, incr_of_room] at refused
            · cases refused
            · change ¬ 0 < count at isNot
              unfold maxInt64
              omega
      · rw [allow_self, attempt_of_refused refused, isStored]

/-- Exactly a value that `INCR` refuses and that has no deadline stays. -/
theorem expires_iff {call : Call} (nonnegative : 0 ≤ call.limit)
    (wide : millisecond ≤ call.window) :
    Expires store call ↔
      incr (current (clock call.time) (store (redisKey call.key))) ≠ none ∨
        deadlineOf (current (clock call.time) (store (redisKey call.key))) ≠
          none := by
  by_cases counts :
    incr (current (clock call.time) (store (redisKey call.key))) = none
  · obtain ⟨⟨value, deadline⟩, settled, live, isStored, leaves⟩ :=
      allow_of_refused counts
    have isFound :
        current (clock call.time) (store (redisKey call.key)) =
          some ⟨value, deadline⟩ := by
      rw [isStored, current, Option.filter_some, if_pos live]
    rw [isFound]
    cases deadline with
    | none =>
        constructor
        · rintro ⟨deadline, isDeadline, _⟩
          rw [leaves] at isDeadline
          cases isDeadline
        · rintro (counted | expires)
          · exact absurd (isFound ▸ counts) counted
          · exact absurd rfl expires
    | some deadline =>
        refine iff_of_true ?_ (Or.inr (Option.some_ne_none deadline))
        refine ⟨deadline, by rw [leaves]; rfl, of_decide_eq_true live,
          Or.inr (by rw [isFound]; rfl), ?_⟩
        intro _ later now before expired
        exact final_expires settled leaves before expired
  · exact
      iff_of_true (expires_of_counts nonnegative wide counts) (Or.inl counts)

def emptyStore : Store := fun _ => none

/-- The calls are made one after the other. -/
def Ordered (calls : List Call) : Prop :=
  calls.Pairwise fun earlier later => earlier.time ≤ later.time

theorem allowedWithin_le_iff (key : String) (nonnegative : 0 ≤ limit)
    (low : limit < 9007199254740992) (wide : millisecond ≤ window) :
    (∀ calls begins,
      Ordered calls → Consistent key limit window calls →
      ((attemptsOn key (trace emptyStore calls)).length : Int) < roundsOut →
      (allowedWithin begins window (attemptsOn key (trace emptyStore calls)) :
        Int) ≤ 2 * limit) ↔
      limit = 0 ∨ window % millisecond ≤ 1 ∨
        limit = 1 ∧ 2 * millisecond ≤ window := by
  constructor
  · intro kept
    by_contra broken
    obtain ⟨times, begins, ordered, readable, more⟩ :=
      two_mul_lt_allowedWithin nonnegative low wide broken
    have isTimes :
        ((times.map (Call.mk key limit window)).filter (onKey key)).map
          Call.time = times := by
      rw [List.filter_eq_self.mpr, List.map_map]
      · exact List.map_id times
      · intro call member
        obtain ⟨time, _, isCall⟩ := List.mem_map.mp member
        rw [← isCall]
        exact decide_eq_true rfl
    have consistent :
        Consistent key limit window (times.map (Call.mk key limit window)) := by
      intro call member _
      obtain ⟨time, _, isCall⟩ := List.mem_map.mp member
      rw [← isCall]
      exact ⟨rfl, rfl⟩
    have few :=
      kept (times.map (Call.mk key limit window)) begins
        (List.pairwise_map.mpr ordered) consistent
    rw [attemptsOn_trace consistent, isTimes, length_attempts] at few
    exact absurd (few readable) (Int.not_le.mpr more)
  · intro regular calls begins ordered consistent readable
    rw [attemptsOn_trace consistent, length_attempts] at readable
    rw [attemptsOn_trace consistent]
    refine allowedWithin_le nonnegative low wide regular ?_ readable begins
    exact List.pairwise_map.mpr (ordered.filter _)

theorem rate_limit_is_kept (nonnegative : 0 ≤ limit) (fits : limit ≤ maxInt64)
    (wide : millisecond ≤ window) :
    (∀ before first during,
      Consistent key limit window (first :: during) →
      first.key = key →
      current (clock first.time) (final emptyStore before (redisKey key)) =
        none →
      (∀ call ∈ during,
        (clock call.time : Int) < clock first.time + milliseconds window) →
      (NumberedOn limit
          (attemptsOn key (trace (final emptyStore before) (first :: during))) ↔
        Exact limit
          (attemptsOn key
            (trace (final emptyStore before) (first :: during))).length)) ∧
    (limit < 9007199254740992 →
      ((∀ calls begins,
        Ordered calls → Consistent key limit window calls →
        ((attemptsOn key (trace emptyStore calls)).length : Int) < roundsOut →
        (allowedWithin begins window
          (attemptsOn key (trace emptyStore calls)) : Int) ≤ 2 * limit) ↔
        limit = 0 ∨ window % millisecond ≤ 1 ∨
          limit = 1 ∧ 2 * millisecond ≤ window)) ∧
    ((∀ calls, Consistent key limit window calls →
        attemptsOn key (trace emptyStore calls) =
          attemptsOn key (trace emptyStore (calls.filter (onKey key)))) ∧
      ∀ store call, call.key ≠ key →
        (allow store call).2 (redisKey key) = store (redisKey key)) ∧
    ∀ store call,
      call.key = key → call.limit = limit → call.window = window →
      (Expires store call ↔
        incr (current (clock call.time) (store (redisKey key))) ≠ none ∨
          deadlineOf (current (clock call.time) (store (redisKey key))) ≠
            none) := by
  refine ⟨?_, ?_, ⟨?_, fun store call => allow_of_ne⟩, ?_⟩
  · intro before first during consistent isKey absent alive
    exact numberedOn_life nonnegative fits wide consistent isKey absent alive
  · intro low
    exact allowedWithin_le_iff key nonnegative low wide
  · intro calls consistent
    have filtered : Consistent key limit window (calls.filter (onKey key)) :=
      fun call member => consistent call (List.mem_of_mem_filter member)
    rw [attemptsOn_trace consistent, attemptsOn_trace filtered,
      List.filter_filter]
    simp only [Bool.and_self]
  · intro store call isKey isLimit isWindow
    subst isKey isLimit isWindow
    exact expires_iff nonnegative wide

/-- Three attempts in one life of the counter, and one in the next. -/
def loginAttempts : List Call :=
  [0, 900000000, 950000000, 1000000000].map fun time =>
    ⟨"login:ip:10.0.0.1", 2, second, time⟩

theorem rate_limit_is_kept_for_logins :
    NumberedOn 2
        (attemptsOn "login:ip:10.0.0.1"
          (trace emptyStore (loginAttempts.take 3))) ∧
      (allowedWithin 0 second
        (attemptsOn "login:ip:10.0.0.1" (trace emptyStore loginAttempts)) :
          Int) ≤ 2 * 2 ∧
      Expires (fun _ => some ⟨.integer 7, none⟩)
        ⟨"login:ip:10.0.0.1", 2, second, 0⟩ := by
  have consistent :
      Consistent "login:ip:10.0.0.1" 2 second loginAttempts := by
    unfold Consistent
    decide
  have ordered : Ordered loginAttempts := by
    unfold Ordered
    decide
  have early :
      ∀ call ∈ (loginAttempts.drop 1).take 2,
        (clock call.time : Int) < clock 0 + milliseconds second := by
    decide
  obtain ⟨isNumbered, isBounded, _, expires⟩ :=
    @rate_limit_is_kept 2 second "login:ip:10.0.0.1" (by decide) (by decide)
      (by decide)
  refine ⟨?_, ?_, ?_⟩
  · refine (isNumbered [] ⟨"login:ip:10.0.0.1", 2, second, 0⟩
      ((loginAttempts.drop 1).take 2) ?_ rfl rfl early).mpr
      (Or.inl (by decide))
    exact fun call member =>
      consistent call (List.mem_of_mem_take (i := 3) member)
  · exact (isBounded (by decide)).mpr (by decide) loginAttempts 0 ordered
      consistent (by decide)
  · exact (expires _ _ rfl rfl rfl).mpr (Or.inl (by decide))

/-- The counter lives one millisecond where the window is one and a half:
five attempts pass within the window where the limit is two.  And a counter
that `INCR` refuses keeps having no deadline. -/
theorem truncated_window_lets_more_through : (let calls : List Call :=
      [0, 900000, 1000000, 1000000, 2000000, 2000000].map fun time =>
        ⟨"login:ip:10.0.0.1", 2, 1500000, time⟩
    calls.Pairwise (fun earlier later => earlier.time ≤ later.time) ∧
      allowedWithin 900000 1500000
        (attemptsOn "login:ip:10.0.0.1" (trace emptyStore calls)) = 5) ∧
    (let store : Store := fun _ => some ⟨.integer maxInt64, none⟩
    let served := allow store ⟨"login:ip:10.0.0.1", 2, second, 0⟩
    served.1.failed = true ∧
      deadlineOf (served.2 (redisKey "login:ip:10.0.0.1")) = none) := by
  decide +kernel

end TicketWave.RateLimit
