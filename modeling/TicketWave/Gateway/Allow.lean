import TicketWave.Gateway.Respond
import TicketWave.RateLimit.Bound

/-!
# Rate limits of the gateway

`API.allow` of `services/gateway/internal/httpapi`.
-/

namespace TicketWave.Gateway

open Library
open TicketWave.RateLimit

/-- The name of a limit: what stands before the first colon of a key. -/
def limitName (key : String) : String :=
  String.ofList (key.toList.takeWhile (· ≠ ':'))

def retryAfter (resetIn : Int) : Int :=
  let retry := (int64 (int64 (resetIn + second) - 1)).tdiv second
  if retry < 1 then 1 else retry

/-- What `API.allow` does: whether the request goes on, the headers that are
set, the error that is written and the limit under which `rateLimited` is
counted up. -/
structure Allowance where
  passed : Bool
  headers : List (String × String)
  written : Option HttpError
  counted : Option String
  deriving DecidableEq, Repr

def allowance (call : Call) (reply : Reply) : Allowance :=
  let res := reply.result
  if reply.failed then
    -- the limiter cannot be reached, so the request is let through
    ⟨true, [], none, none⟩
  else
    let headers :=
      [("X-RateLimit-Limit", toString call.limit),
        ("X-RateLimit-Remaining", toString res.remaining)]
    if res.allowed then
      ⟨true, headers, none, none⟩
    else
      ⟨false,
        headers ++ [("Retry-After", toString (retryAfter res.resetIn))],
        some ⟨429, "rate_limited", "too many requests, try again shortly"⟩,
        some (limitName call.key)⟩

def API.allow (store : Store) (call : Call) : Allowance × Store :=
  let done := RateLimit.allow store call
  (allowance call done.1, done.2)

theorem passed_allowance (call : Call) (reply : Reply) :
    (allowance call reply).passed = (reply.failed || reply.result.allowed) := by
  obtain ⟨⟨allowed, remaining, resetIn⟩, failed⟩ := reply
  cases failed <;> cases allowed <;> rfl

theorem retryAfter_mem_headers {call : Call} {reply : Reply}
    (refused : (allowance call reply).passed = false) :
    ("Retry-After", toString (retryAfter reply.result.resetIn)) ∈
      (allowance call reply).headers := by
  rw [passed_allowance, Bool.or_eq_false_iff] at refused
  rw [allowance, refused.1, refused.2]
  exact List.mem_append_right _ (List.mem_singleton_self _)

/-- The longest time left, in milliseconds, that `API.allow` can round up. -/
def maxTimeLeft : Int := 9223372035854

theorem retryAfter_of_le
    {ttl : Int} (positive : 0 < ttl) (short : ttl ≤ maxTimeLeft) :
    retryAfter (int64 (ttl * millisecond)) =
      (ttl * millisecond + second - 1) / second := by
  unfold maxTimeLeft at short
  have isResetIn : int64 (ttl * millisecond) = ttl * millisecond := by
    apply int64_of_range <;> unfold maxInt64 millisecond <;> omega
  have isWhole :
      int64 (int64 (ttl * millisecond + second) - 1) =
        ttl * millisecond + second - 1 := by
    have inner :
        int64 (ttl * millisecond + second) = ttl * millisecond + second := by
      apply int64_of_range <;> unfold maxInt64 millisecond second <;> omega
    rw [inner]
    apply int64_of_range <;> unfold maxInt64 millisecond second <;> omega
  rw [retryAfter, isResetIn, isWhole]
  unfold millisecond second
  rw [Int.tdiv_eq_ediv_of_nonneg (by omega)]
  omega

/-- The seconds are no less than the time left, and one second fewer would be
less. -/
theorem retryAfter_rounds_up
    {ttl : Int} (positive : 0 < ttl) (short : ttl ≤ maxTimeLeft) :
    1 ≤ retryAfter (int64 (ttl * millisecond)) ∧
      ttl * millisecond ≤ retryAfter (int64 (ttl * millisecond)) * second ∧
      (retryAfter (int64 (ttl * millisecond)) - 1) * second + millisecond ≤
        ttl * millisecond := by
  rw [retryAfter_of_le positive short]
  unfold millisecond second
  omega

theorem retryAfter_bounds (resetIn : Int) :
    1 ≤ retryAfter resetIn ∧ retryAfter resetIn ≤ 9223372036 := by
  have bounded : int64 (int64 (resetIn + second) - 1) ≤ maxInt64 := by
    unfold int64 maxInt64
    exact Int.le_of_lt_add_one (Int.bmod_lt (by decide))
  have below :
      (int64 (int64 (resetIn + second) - 1)).tdiv second ≤ 9223372036 :=
    (Int.tdiv_le_tdiv (by decide) bounded).trans (by decide)
  unfold retryAfter
  dsimp only
  split <;> omega

/-- The sum overflows, and by more than what is taken off again. -/
theorem retryAfter_of_overflow {resetIn : Int}
    (least : maxInt64 + 1 < resetIn + second) (most : resetIn ≤ maxInt64) :
    retryAfter resetIn = 1 := by
  have isSum :
      int64 (resetIn + second) = resetIn + second - 18446744073709551616 := by
    unfold maxInt64 second at *
    rw [int64, Int.bmod_def, Int.emod_eq_of_lt (by omega) (by omega),
      if_neg (by omega)]
    rfl
  have isLess :
      int64 (int64 (resetIn + second) - 1) =
        resetIn + second - 18446744073709551616 - 1 := by
    have low : -maxInt64 - 1 ≤ resetIn + second - 18446744073709551616 - 1 := by
      unfold maxInt64 second at *
      omega
    have high : resetIn + second - 18446744073709551616 - 1 ≤ maxInt64 := by
      unfold maxInt64 second at *
      omega
    rw [isSum, int64_of_range low high]
  have negative :
      (int64 (int64 (resetIn + second) - 1)).tdiv second ≤ 0 := by
    rw [isLess]
    refine (Int.tdiv_le_tdiv (b := 0) (by decide) ?_).trans (by decide)
    unfold maxInt64 second at *
    omega
  unfold retryAfter
  dsimp only
  rw [if_pos (by omega)]

/-- A longer time left is never reached: the sum overflows, or the seconds of
the greatest duration are too few. -/
theorem retryAfter_lt {ttl : Int} (long : maxTimeLeft < ttl) :
    retryAfter (int64 (viaDouble ttl * millisecond)) * second ≤
      (ttl - 1) * millisecond := by
  unfold maxTimeLeft at long
  by_cases wraps : ttl ≤ 9223372036854
  · have isResetIn :
        int64 (viaDouble ttl * millisecond) = ttl * millisecond := by
      rw [viaDouble_of_small (by omega)]
      apply int64_of_range <;> unfold maxInt64 millisecond <;> omega
    have isOne : retryAfter (ttl * millisecond) = 1 := by
      apply retryAfter_of_overflow
      · unfold maxInt64 millisecond second
        omega
      · unfold maxInt64 millisecond
        omega
    rw [isResetIn, isOne]
    unfold millisecond second
    omega
  · have most := (retryAfter_bounds (int64 (viaDouble ttl * millisecond))).2
    have few :
        retryAfter (int64 (viaDouble ttl * millisecond)) * second ≤
          9223372036 * second :=
      Int.mul_le_mul_of_nonneg_right most (by decide)
    unfold millisecond second at *
    omega

section Refused

variable {store : Store} {call : Call}

/-- A refused request finds a counter above the limit, which lives on for the
time left. -/
theorem reply_of_refused
    (limited : 1 ≤ call.limit) (wide : millisecond ≤ call.window)
    (refused : (API.allow store call).1.passed = false) :
    ∃ (count : Int) (deadline : Nat),
      1 < count ∧
        (RateLimit.allow store call).1 =
          ⟨result call.limit (viaDouble count)
            (viaDouble (deadline - clock call.time)), false⟩ ∧
        (RateLimit.allow store call).2 (redisKey call.key) =
          some ⟨.integer count, some deadline⟩ ∧
        clock call.time < deadline ∧
        (deadline : Int) - clock call.time =
          timeLeft (clock call.time) call.window
            (current (clock call.time) (store (redisKey call.key))) := by
  have notPassed :
      ((RateLimit.allow store call).1.failed ||
        (RateLimit.allow store call).1.result.allowed) = false :=
    (passed_allowance call _).symm.trans refused
  by_cases fails :
    incr (current (clock call.time) (store (redisKey call.key))) = none
  · rw [RateLimit.allow, attempt_of_refused fails] at notPassed
    cases notPassed
  · obtain ⟨count, deadline, isAttempt, alive, _, left⟩ :=
      @attempt_of_counts call.limit _ _ _ wide fails
    have isReply :
        (RateLimit.allow store call).1 =
          ⟨result call.limit (viaDouble count)
            (viaDouble (deadline - clock call.time)), false⟩ := by
      rw [RateLimit.allow, isAttempt]
    have isStored :
        (RateLimit.allow store call).2 (redisKey call.key) =
          some ⟨.integer count, some deadline⟩ := by
      rw [allow_self, isAttempt]
    have isOver : ¬ viaDouble count ≤ call.limit := by
      rw [isReply] at notPassed
      exact of_decide_eq_false notPassed
    have isNotFirst : count ≠ 1 := by
      rintro rfl
      exact isOver (viaDouble_one.trans_le limited)
    have positive := pos_of_refused (by omega) isOver
    exact ⟨count, deadline, by omega, isReply, isStored, alive, left isNotFirst⟩

theorem allow_of_absent
    (limited : 1 ≤ call.limit) (wide : millisecond ≤ call.window)
    (absent : current (clock call.time) (store (redisKey call.key)) = none) :
    (RateLimit.allow store call).1.result.allowed = true ∧
      (API.allow store call).1.passed = true := by
  obtain ⟨length, positive, isLength, _⟩ := milliseconds_of_le wide
  have allowed : (RateLimit.allow store call).1.result.allowed = true := by
    rw [RateLimit.allow, attempt_of_absent absent positive isLength]
    exact decide_eq_true limited
  refine ⟨allowed, (passed_allowance call _).trans ?_⟩
  rw [allowed, Bool.or_true]

end Refused

/-- The seconds reach the end of the counter that has refused the call and do
not go a second beyond it, and the same call is allowed after them. -/
def Honest (store : Store) (call : Call) (retry : Int) : Prop :=
  ∃ deadline : Nat,
    deadlineOf ((API.allow store call).2 (redisKey call.key)) = some deadline ∧
    1 ≤ retry ∧
    deadline * millisecond - call.time ≤ retry * second ∧
    (retry - 1) * second < deadline * millisecond - call.time ∧
    ∀ between again,
      (∀ other ∈ between, other.key ≠ call.key) →
      again.key = call.key → again.limit = call.limit →
      again.window = call.window →
      call.time + retry * second ≤ again.time →
      (RateLimit.allow (final (API.allow store call).2 between)
          again).1.result.allowed = true ∧
        (API.allow (final (API.allow store call).2 between)
          again).1.passed = true

theorem retry_after_is_honest {store : Store} {call : Call}
    (limited : 1 ≤ call.limit) (wide : millisecond ≤ call.window)
    (refused : (API.allow store call).1.passed = false) :
    ∃ retry : Int,
      ("Retry-After", toString retry) ∈ (API.allow store call).1.headers ∧
      1 ≤ retry ∧
      (Honest store call retry ↔
        timeLeft (clock call.time) call.window
          (current (clock call.time) (store (redisKey call.key))) ≤
            maxTimeLeft) := by
  obtain ⟨count, deadline, counting, isReply, isStored, alive, isLeft⟩ :=
    reply_of_refused limited wide refused
  have positive : 0 < (deadline : Int) - clock call.time := by omega
  have isResetIn :
      (RateLimit.allow store call).1.result.resetIn =
        int64 (viaDouble (deadline - clock call.time) * millisecond) := by
    rw [isReply]
    rfl
  have isDeadline :
      deadlineOf ((API.allow store call).2 (redisKey call.key)) =
        some deadline := by
    rw [API.allow, isStored]
    rfl
  have header := retryAfter_mem_headers refused
  rw [isResetIn] at header
  obtain ⟨least, most⟩ := clock_bounds call.time
  rw [← isLeft]
  refine ⟨_, header, (retryAfter_bounds _).1, ?_, fun short => ?_⟩
  · rintro ⟨found, isFound, _, enough, _⟩
    obtain rfl : deadline = found :=
      Option.some.inj (isDeadline.symm.trans isFound)
    by_contra long
    have tooFew := retryAfter_lt (Int.not_le.mp long)
    unfold millisecond at *
    omega
  · have isExact :
        viaDouble (deadline - clock call.time) = deadline - clock call.time := by
      apply viaDouble_of_small
      unfold maxTimeLeft at short
      omega
    obtain ⟨atLeastOne, enough, justEnough⟩ :=
      retryAfter_rounds_up positive short
    rw [isExact]
    refine ⟨deadline, isDeadline, atLeastOne, ?_, ?_, ?_⟩
    · unfold millisecond at *
      omega
    · unfold millisecond at *
      omega
    · intro between again others sameKey sameLimit sameWindow late
      have expired : deadline ≤ clock again.time := by
        have least' := clock_bounds again.time
        unfold millisecond second at *
        omega
      apply allow_of_absent (sameLimit ▸ limited) (sameWindow ▸ wide)
      rw [sameKey, final_of_ne others]
      change
        current _ ((RateLimit.allow store call).2 (redisKey call.key)) = none
      rw [isStored, current_of_expired _ expired]

/-- The third login within a minute, half a second before its end. -/
theorem retry_after_is_honest_at_the_end_of_a_minute :
    ∃ retry : Int,
      ("Retry-After", toString retry) ∈
        (API.allow
          (fun _ => some ⟨.integer 2, some 60000⟩)
          ⟨"login:10.0.0.1", 2, 60 * second, 59500000000⟩).1.headers ∧
      Honest
        (fun _ => some ⟨.integer 2, some 60000⟩)
        ⟨"login:10.0.0.1", 2, 60 * second, 59500000000⟩ retry := by
  obtain ⟨retry, header, _, isHonest⟩ :=
    @retry_after_is_honest
      (fun _ => some ⟨.integer 2, some 60000⟩)
      ⟨"login:10.0.0.1", 2, 60 * second, 59500000000⟩
      (by decide) (by decide) (by decide +kernel)
  exact ⟨retry, header, isHonest.mpr (by decide +kernel)⟩

/-- With the longest window that Go has, the sum overflows: the caller is told
to come back after a second and is refused again. -/
theorem longest_window_overflows :
    let call : Call := ⟨"login:10.0.0.1", 1, maxInt64, 0⟩
    let once := (API.allow emptyStore call).2
    let twice := API.allow once call
    let again := API.allow twice.2 { call with time := 1000000000 }
    twice.1.passed = false ∧
      ("Retry-After", "1") ∈ twice.1.headers ∧
      deadlineOf (twice.2 (redisKey call.key)) = some 9223372036854 ∧
      again.1.passed = false := by
  decide +kernel

end TicketWave.Gateway
