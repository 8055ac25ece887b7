import Mathlib.Algebra.Order.Group.Unbundled.Int
import Mathlib.Data.Int.Order.Basic
import Mathlib.Logic.Function.Basic
import TicketWave.Library.Numbers

/-!
# The rate limiter

`pkg/ratelimit`.  Times and durations are in nanoseconds, with the arithmetic
of `int64`; the clock of Redis counts whole milliseconds, and the numbers of
the script are doubles.
-/

namespace TicketWave.RateLimit

open Library

def millisecond : Int := 1000000
def second : Int := 1000000000

/-- `Duration.Milliseconds` -/
def milliseconds (duration : Int) : Int :=
  duration.tdiv millisecond

/-- What the clock of Redis shows. -/
def clock (time : Nat) : Nat :=
  time / 1000000

inductive Value where
  | integer (count : Int)
  | other
  deriving DecidableEq, Repr

structure Entry where
  value : Value
  deadline : Option Nat
  deriving DecidableEq, Repr

def Entry.live (now : Nat) (entry : Entry) : Bool :=
  match entry.deadline with
  | none => true
  | some deadline => decide (now < deadline)

/-- What a command finds under a key. -/
def current (now : Nat) (stored : Option Entry) : Option Entry :=
  stored.filter (Entry.live now)

def incr : Option Entry → Option (Int × Entry)
  | none => some (1, ⟨.integer 1, none⟩)
  | some ⟨.integer count, deadline⟩ =>
      if count < maxInt64 then
        some (count + 1, ⟨.integer (count + 1), deadline⟩)
      else
        none
  | some ⟨.other, _⟩ => none

theorem incr_of_room
    {count : Int} (room : count < maxInt64) (deadline : Option Nat) :
    incr (some ⟨.integer count, deadline⟩) =
      some (count + 1, ⟨.integer (count + 1), deadline⟩) :=
  if_pos room

/-- A duration that is not positive deletes the key. -/
def pexpire (now : Nat) (duration : Int) (found : Option Entry) :
    Option Entry :=
  if duration ≤ 0 then
    none
  else
    found.map fun entry =>
      { entry with deadline := some (now + duration.toNat) }

def pttl (now : Nat) : Option Entry → Int
  | none => -2
  | some ⟨_, none⟩ => -1
  | some ⟨_, some deadline⟩ => deadline - now

/-- The count and the time left that `allowScript` returns, and the entry it
leaves. -/
def allowScript (now : Nat) (argument : Int) (found : Option Entry) :
    Option (Int × Int × Option Entry) :=
  match incr found with
  | none => none
  | some (reply, counted) =>
      let count := nearest reply
      let stored :=
        if count = 1 then pexpire now argument (some counted)
        else some counted
      let ttl := nearest (pttl now stored)
      if ttl < 0 then
        some
          (truncated count, truncated (nearest argument),
            pexpire now argument stored)
      else
        some (truncated count, truncated ttl, stored)

structure Result where
  allowed : Bool
  remaining : Int
  resetIn : Int
  deriving DecidableEq, Repr

def result (limit count ttl : Int) : Result :=
  let remaining := int64 (limit - count)
  { allowed := decide (count ≤ limit)
    remaining := if remaining < 0 then 0 else remaining
    resetIn := int64 (ttl * millisecond) }

/-- What `Allow` returns. -/
structure Reply where
  result : Result
  failed : Bool
  deriving DecidableEq, Repr

/-- An attempt on one key: the reply, and the entry that is stored then. -/
def attempt (limit window : Int) (now : Nat) (stored : Option Entry) :
    Reply × Option Entry :=
  match allowScript now (milliseconds window) (current now stored) with
  | none => (⟨⟨false, 0, 0⟩, true⟩, stored)
  | some (count, ttl, next) => (⟨result limit count ttl, false⟩, next)

abbrev Store := String → Option Entry

def redisKey (key : String) : String :=
  "ratelimit:" ++ key

structure Call where
  key : String
  limit : Int
  window : Int
  time : Nat
  deriving DecidableEq, Repr

/-- `Allow` -/
def allow (store : Store) (call : Call) : Reply × Store :=
  let done :=
    attempt call.limit call.window (clock call.time)
      (store (redisKey call.key))
  (done.1, Function.update store (redisKey call.key) done.2)

theorem redisKey_injective : Function.Injective redisKey := by
  intro left right same
  exact (String.append_right_inj _).mp same

theorem allow_of_ne
    {store : Store} {call : Call} {key : String} (different : call.key ≠ key) :
    (allow store call).2 (redisKey key) = store (redisKey key) := by
  apply Function.update_of_ne
  intro same
  exact different (redisKey_injective same).symm

theorem allow_self (store : Store) (call : Call) :
    (allow store call).2 (redisKey call.key) =
      (attempt call.limit call.window (clock call.time)
        (store (redisKey call.key))).2 :=
  Function.update_self ..

theorem milliseconds_of_le {window : Int} (wide : millisecond ≤ window) :
    ∃ length : Nat, 0 < length ∧ milliseconds window = length ∧
      length * millisecond ≤ window ∧
      window < (length + 1) * millisecond := by
  unfold milliseconds
  unfold millisecond at *
  rw [Int.tdiv_eq_ediv_of_nonneg (by omega)]
  exact ⟨(window / 1000000).toNat, by omega, by omega, by omega, by omega⟩

section Attempt

variable {limit window : Int} {length now deadline : Nat}
  {stored : Option Entry}

theorem pexpire_some (positive : 0 < length) (entry : Entry) :
    pexpire now length (some entry) =
      some { entry with deadline := some (now + length) } := by
  have isPositive : ¬ (length : Int) ≤ 0 := by omega
  rw [pexpire, if_neg isPositive, Option.map_some, Int.toNat_natCast]

/-- The comparisons of the script are not disturbed by its doubles. -/
theorem allowScript_of_incr {found : Option Entry} {counted : Entry}
    {count argument : Int} (counts : incr found = some (count, counted)) :
    allowScript now argument found =
      let stored :=
        if count = 1 then pexpire now argument (some counted)
        else some counted
      if pttl now stored < 0 then
        some
          (viaDouble count, viaDouble argument, pexpire now argument stored)
      else
        some (viaDouble count, viaDouble (pttl now stored), stored) := by
  simp only [allowScript, counts, nearest_eq_one_iff, nearest_neg_iff,
    viaDouble]

theorem attempt_of_absent (absent : current now stored = none)
    (positive : 0 < length) (isLength : milliseconds window = length) :
    attempt limit window now stored =
      (⟨result limit 1 (viaDouble length), false⟩,
        some ⟨.integer 1, some (now + length)⟩) := by
  have left : (↑(now + length) : Int) - ↑now = length := by omega
  have counts : ¬ (length : Int) < 0 := by omega
  rw [attempt, absent, allowScript_of_incr rfl]
  simp only [isLength, if_true, pexpire_some positive, pttl, left,
    if_neg counts, viaDouble_one]

theorem current_of_alive (value : Value) (alive : now < deadline) :
    current now (some ⟨value, some deadline⟩) =
      some ⟨value, some deadline⟩ := by
  simp [current, Entry.live, alive]

theorem current_of_expired (value : Value) (expired : deadline ≤ now) :
    current now (some ⟨value, some deadline⟩) = none := by
  simp [current, Entry.live, Nat.not_lt.mpr expired]

theorem attempt_of_counting {count : Int} (counting : 0 < count)
    (room : count < maxInt64) (alive : now < deadline) :
    attempt limit window now (some ⟨.integer count, some deadline⟩) =
      (⟨result limit (viaDouble (count + 1)) (viaDouble (deadline - now)),
          false⟩,
        some ⟨.integer (count + 1), some deadline⟩) := by
  have isNotFirst : ¬ count + 1 = 1 := by omega
  have counts : ¬ (deadline : Int) - ↑now < 0 := by omega
  rw [attempt, current_of_alive _ alive,
    allowScript_of_incr (incr_of_room room _)]
  simp only [if_neg isNotFirst, pttl, if_neg counts]

/-- `INCR` refuses what is found. -/
theorem attempt_of_refused (refused : incr (current now stored) = none) :
    attempt limit window now stored = (⟨⟨false, 0, 0⟩, true⟩, stored) := by
  simp only [attempt, allowScript, refused]

theorem attempt_of_full
    {count : Int} (full : maxInt64 ≤ count) (alive : now < deadline) :
    attempt limit window now (some ⟨.integer count, some deadline⟩) =
      (⟨⟨false, 0, 0⟩, true⟩, some ⟨.integer count, some deadline⟩) := by
  apply attempt_of_refused
  rw [current_of_alive _ alive, incr, if_neg (Int.not_lt.mpr full)]

/-- A value that no attempt counts to one. -/
def Value.settled : Value → Prop
  | .integer count => 0 < count
  | .other => True

theorem attempt_keeps
    {value : Value} (settled : value.settled) (alive : now < deadline) :
    ∃ next : Value, next.settled ∧
      (attempt limit window now (some ⟨value, some deadline⟩)).2 =
        some ⟨next, some deadline⟩ := by
  cases value with
  | other =>
      refine ⟨.other, trivial, ?_⟩
      rw [attempt_of_refused]
      rw [current_of_alive _ alive]
      rfl
  | integer count =>
      by_cases room : count < maxInt64
      · rw [attempt_of_counting settled room alive]
        exact ⟨.integer (count + 1), Int.lt_add_one_of_le settled.le, rfl⟩
      · rw [attempt_of_full (Int.not_lt.mp room) alive]
        exact ⟨.integer count, settled, rfl⟩

def deadlineOf (found : Option Entry) : Option Nat :=
  found.bind Entry.deadline

/-- How long a counter that is found lives on when it is not counted to one:
without a deadline it gets one. -/
def timeLeft (now : Nat) (window : Int) (found : Option Entry) : Int :=
  match deadlineOf found with
  | none => milliseconds window
  | some deadline => deadline - now

/-- Whatever is stored, an attempt that `INCR` counts leaves a counter that
expires, at most a window later unless it had its deadline before. -/
theorem attempt_of_counts
    (wide : millisecond ≤ window) (counts : incr (current now stored) ≠ none) :
    ∃ (count : Int) (deadline : Nat),
      attempt limit window now stored =
          (⟨result limit (viaDouble count) (viaDouble (deadline - now)),
              false⟩,
            some ⟨.integer count, some deadline⟩) ∧
        now < deadline ∧
        (((deadline : Int) - now) * millisecond ≤ window ∨
          deadlineOf (current now stored) = some deadline) ∧
        (count ≠ 1 →
          (deadline : Int) - now =
            timeLeft now window (current now stored)) := by
  obtain ⟨length, positive, isLength, fits, _⟩ := milliseconds_of_le wide
  have left : (↑(now + length) : Int) - ↑now = length := by omega
  have soon : ((↑(now + length) : Int) - now) * millisecond ≤ window := by
    rw [left]
    exact fits
  have later : now < now + length := by omega
  have isLeft : ¬ (length : Int) < 0 := by omega
  cases found : current now stored with
  | none =>
      refine ⟨1, now + length, ?_, later, Or.inl soon, fun other => ?_⟩
      · rw [attempt_of_absent found positive isLength, left, viaDouble_one]
      · exact absurd rfl other
  | some entry =>
      obtain ⟨value, oldDeadline⟩ := entry
      rw [found] at counts
      cases value with
      | other => exact absurd rfl counts
      | integer count =>
          have room : count < maxInt64 := by
            by_contra full
            exact counts (if_neg full)
          by_cases first : count + 1 = 1
          · refine ⟨count + 1, now + length, ?_, later, Or.inl soon,
              fun other => absurd first other⟩
            rw [attempt, found, allowScript_of_incr (incr_of_room room _)]
            simp only [if_pos first, isLength, pexpire_some positive, pttl,
              left, if_neg isLeft]
          · cases oldDeadline with
            | none =>
                -- the repair: no deadline although it is not the first
                refine ⟨count + 1, now + length, ?_, later, Or.inl soon,
                  fun _ => left.trans isLength.symm⟩
                rw [attempt, found, allowScript_of_incr (incr_of_room room _)]
                simp only [if_neg first, isLength, pexpire_some positive, pttl,
                  left]
                rfl
            | some deadline =>
                have alive : now < deadline := by
                  have live := (Option.filter_eq_some_iff.mp found).2
                  exact of_decide_eq_true live
                have isLater : ¬ (deadline : Int) - ↑now < 0 := by omega
                refine
                  ⟨count + 1, deadline, ?_, alive, Or.inr rfl, fun _ => rfl⟩
                rw [attempt, found, allowScript_of_incr (incr_of_room room _)]
                simp only [if_neg first, pttl, if_neg isLater]

end Attempt

end TicketWave.RateLimit
