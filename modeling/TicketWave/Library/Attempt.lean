/-!
# Attempts of a transaction

The connection may break before the commit, and after it with the reply on
its way.
-/

namespace TicketWave.Library

universe u v

inductive Outcome where
  /-- the caller sees the transaction's own result -/
  | done
  /-- nothing was committed and the caller sees an error -/
  | failed
  /-- the transaction ran, but the caller sees an error -/
  | lost
  deriving DecidableEq, Repr

structure Attempt (Db : Type u) (Err : Type v) where
  db : Db
  committed : Bool
  error : Option Err

variable {Db : Type u} {Err : Type v}

/-- `broken` is what the caller sees when the connection breaks. -/
def attempt (outcome : Outcome) (db : Db) (result : Except Err Db)
    (broken : Err) : Attempt Db Err :=
  match outcome, result with
  | .done, .ok next => ⟨next, true, none⟩
  | .done, .error err => ⟨db, false, some err⟩
  | .lost, .ok next => ⟨next, true, some broken⟩
  | .lost, .error _ => ⟨db, false, some broken⟩
  | .failed, _ => ⟨db, false, some broken⟩

variable {outcome : Outcome} {db : Db} {result : Except Err Db} {broken : Err}

theorem attempt_committed
    (committed : (attempt outcome db result broken).committed = true) :
    outcome ≠ .failed ∧ result = .ok (attempt outcome db result broken).db := by
  cases outcome <;> cases result <;>
    first
    | exact ⟨by decide, rfl⟩
    | cases committed

theorem attempt_uncommitted
    (uncommitted : (attempt outcome db result broken).committed = false) :
    (attempt outcome db result broken).db = db ∧
      (attempt outcome db result broken).error ≠ none := by
  cases outcome <;> cases result <;>
    first
    | exact ⟨rfl, Option.some_ne_none _⟩
    | cases uncommitted

/-- Whoever sees no error has committed. -/
theorem attempt_committed_of_silent
    (silent : (attempt outcome db result broken).error = none) :
    (attempt outcome db result broken).committed = true := by
  cases outcome <;> cases result <;>
    first
    | rfl
    | cases silent

/-- A committed transaction succeeds for its caller or loses its reply. -/
theorem attempt_error_of_committed
    (committed : (attempt outcome db result broken).committed = true) :
    (attempt outcome db result broken).error = none ∨
      outcome = .lost ∧
        (attempt outcome db result broken).error = some broken := by
  cases outcome <;> cases result <;>
    first
    | exact Or.inl rfl
    | exact Or.inr ⟨rfl, rfl⟩
    | cases committed

/-- A transaction that can commit does so unless the connection breaks before
it. -/
theorem attempt_of_ok {next : Db} (ran : outcome ≠ .failed) :
    (attempt outcome db (.ok next : Except Err Db) broken).db = next ∧
      (attempt outcome db (.ok next : Except Err Db) broken).committed =
        true := by
  cases outcome with
  | failed => exact absurd rfl ran
  | done => exact ⟨rfl, rfl⟩
  | lost => exact ⟨rfl, rfl⟩

end TicketWave.Library
