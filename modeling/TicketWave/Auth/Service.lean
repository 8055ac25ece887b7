import TicketWave.Auth.Model
import TicketWave.Library.Registry
import TicketWave.Library.Runs

/-!
# auth-svc at work

Any number of calls under READ COMMITTED, `Refresh` cut at its statements: a
row that it has locked or written stays locked until it ends, and its mass
`UPDATE` works on the rows that were committed when it began.  An error or a
crash is an abort; the reply to a `COMMIT` can be lost.  Random bytes are
assumed never to repeat.  `history` only records what was written.
-/

namespace TicketWave.Auth

open Library

inductive Stage where
  /-- before `SELECT … FOR UPDATE` or waiting in it -/
  | selecting
  /-- the token turned out to be revoked -/
  | reused
  /-- in the mass `UPDATE`, with these rows still to come -/
  | revokingAll (pending : List UUID)
  /-- the token is good -/
  | rotating
  /-- the token has been marked as revoked -/
  | lookingUp
  | issuing (user : UserRow)
  /-- the new token has been inserted -/
  | committing (user : UserRow) (issued : Deps.Issued)
  | returned (result : Except Status TokenResponse)
  deriving DecidableEq

structure Call where
  token : String
  /-- the row that the `SELECT` has read and locked -/
  found : Option TokenRow
  /-- the rows that the transaction has set to revoked -/
  updated : List UUID
  stage : Stage
  deriving DecidableEq

namespace Call

def isOpen (call : Call) : Bool :=
  match call.stage with
  | .returned _ => false
  | _ => true

/-- The transaction has the row locked. -/
def holds (call : Call) (row : UUID) : Bool :=
  call.isOpen &&
    (decide (call.found.map TokenRow.id = some row) ||
      decide (row ∈ call.updated))

/-- The row that the transaction has inserted. -/
def inserted (call : Call) : Option TokenRow :=
  match call.stage with
  | .committing _ issued => some issued.row
  | _ => none

/-- The presented token was found to be revoked. -/
def reuse (call : Call) : Bool :=
  call.found.any TokenRow.revoked

end Call

/-- What was written.  Tokens are named by their hashes. -/
inductive Event where
  | loggedIn (hash : String)
  | loggedOut (hash : String)
  | exchanged (call : Nat) (old new : String)
  /-- a mass revocation and the tokens that it found alive -/
  | revokedAll (call : Nat) (hashes : List String)
  deriving DecidableEq, Repr

structure State where
  db : Db
  calls : Registry Call
  history : List Event

def State.empty : State where
  db := Db.empty
  calls := Registry.empty
  history := []

namespace State

variable (state : State)

def put (id : Nat) (call : Call) : State :=
  { state with calls := state.calls.put id call }

def locked (row : UUID) : Bool :=
  state.calls.any fun call => call.holds row

/-- Neither the ID nor the hash of the row is in use. -/
def fresh (row : TokenRow) : Bool :=
  !(state.db.refreshTokens.any row.clashes) &&
    !(state.calls.any fun call => call.inserted.any row.clashes)

/-- The tables after a write to `refresh_tokens`. -/
def write (rows : List TokenRow) (events : List Event) : State :=
  { state with
    db := { state.db with refreshTokens := rows }
    history := events ++ state.history }

/-- The IDs of the rows of the user. -/
def rowsOf (user : UUID) : List UUID :=
  (state.db.refreshTokens.filter fun row => decide (row.userId = user)).map
    TokenRow.id

/-- The hashes of the rows in the list that are not revoked yet. -/
def aliveAmong (ids : List UUID) : List String :=
  (state.db.refreshTokens.filter fun row =>
    decide (row.id ∈ ids) && !row.revoked).map TokenRow.tokenHash

end State

inductive Label where
  | register (req : Credentials) (passwordHash : String) (id : UUID)
  | login
      (req : Credentials) (tokenId : UUID) (refreshToken : String)
      (now : Nat) (outcome : Outcome)
  | logout (token : String) (outcome : Outcome)
  /-- a call of `Refresh` begins its transaction -/
  | refresh (token : String)
  | select (call : Nat) (now : Nat)
  /-- the mass `UPDATE` begins -/
  | revokeAll (call : Nat)
  /-- the mass `UPDATE` gets to a row -/
  | revokeRow (call : Nat) (row : UUID)
  /-- the `UPDATE` of the presented token -/
  | rotate (call : Nat)
  | readUser (call : Nat)
  | issue
      (call : Nat) (tokenId : UUID) (refreshToken : String) (now : Nat)
  | commit (call : Nat) (outcome : Outcome)
  | abort (call : Nat) (cause : String)
  deriving DecidableEq, Repr

/-- The label is a step of the call. -/
def Label.advances (label : Label) (call : Nat) : Prop :=
  match label with
  | .register _ _ _ | .login _ _ _ _ _ | .logout _ _ | .refresh _ => False
  | .select id _ | .revokeAll id | .revokeRow id _ | .rotate id
  | .readUser id | .issue id _ _ _ | .commit id _ | .abort id _ => id = call

/-- The label is a step of some call of `Refresh` at work. -/
def Label.internal : Label → Bool
  | .register _ _ _ | .login _ _ _ _ _ | .logout _ _ | .refresh _ => false
  | .select _ _ | .revokeAll _ | .revokeRow _ _ | .rotate _ | .readUser _
  | .issue _ _ _ _ | .commit _ _ | .abort _ _ => true

section Step

variable (deps : Deps) (state : State)

/-- The answer of `Login` under the outcome of its insert. -/
def loginAnswer (req : Credentials) (tokenId : UUID) (refreshToken : String)
    (now : Nat) (outcome : Outcome) : Except Status TokenResponse :=
  match deps.authenticate state.db req with
  | .error err => .error err
  | .ok user =>
      match outcome with
      | .done =>
          .ok
            (respond user (deps.issueTokens user tokenId refreshToken now))
      | .failed | .lost => .error (Status.wrapped "insert refresh token")

/-- The call ends with the transaction committed or not; `events` are those
of a commit and `answer` is the result when the commit is acknowledged. -/
def State.finish (id : Nat) (call : Call) (outcome : Outcome)
    (rows : List TokenRow) (events : List Event)
    (answer : Except Status TokenResponse) (broken : Status) : State :=
  let tx := attempt outcome state.db.refreshTokens (.ok rows) broken
  let result :=
    match tx.error with
    | some err => .error err
    | none => answer
  (state.write tx.db (if tx.committed then events else [])).put id
    { call with stage := .returned result }

def step : Label → Option State
  | .register req passwordHash id =>
      match deps.register state.db.users req passwordHash id with
      | .error _ => some state
      | .ok user =>
          some
            { state with
              db := { state.db with users := state.db.users ++ [user] } }
  | .login req tokenId refreshToken now outcome =>
      match deps.authenticate state.db req with
      | .error _ => some state
      | .ok user =>
          let row := (deps.issueTokens user tokenId refreshToken now).row
          match outcome with
          | .failed => some state
          | .done | .lost =>
              if state.fresh row then
                some
                  (state.write (state.db.refreshTokens ++ [row])
                    [.loggedIn row.tokenHash])
              else
                none
  | .logout token outcome =>
      match state.db.token (deps.hashToken token), outcome with
      | none, _ => some state
      | some _, .failed => some state
      | some row, .done | some row, .lost =>
          if state.locked row.id then
            none
          else
            some
              (state.write (revokeRows [row.id] state.db.refreshTokens)
                (if row.revoked then [] else [.loggedOut row.tokenHash]))
  | .refresh token =>
      some
        { state with
          calls := state.calls.launch ⟨token, none, [], .selecting⟩ }
  | .select id now =>
      match state.calls.get id with
      | some ⟨token, none, updated, .selecting⟩ =>
          match state.db.token (deps.hashToken token) with
          | none =>
              some
                (state.put id
                  ⟨token, none, updated, .returned (.error errInvalidRefresh)⟩)
          | some row =>
              if state.locked row.id then
                none
              else if row.revoked then
                some (state.put id ⟨token, some row, updated, .reused⟩)
              else if now > row.expiresAt then
                some
                  (state.put id
                    ⟨token, some row, updated,
                      .returned (.error errExpiredRefresh)⟩)
              else
                some (state.put id ⟨token, some row, updated, .rotating⟩)
      | _ => none
  | .revokeAll id =>
      match state.calls.get id with
      | some ⟨token, some row, updated, .reused⟩ =>
          some
            (state.put id
              ⟨token, some row, updated,
                .revokingAll (state.rowsOf row.userId)⟩)
      | _ => none
  | .revokeRow id target =>
      match state.calls.get id with
      | some ⟨token, some row, updated, .revokingAll pending⟩ =>
          if target ∈ pending ∧
              (target = row.id ∨ state.locked target = false) then
            some
              (state.put id
                ⟨token, some row, target :: updated,
                  .revokingAll (pending.filter fun other =>
                    decide (other ≠ target))⟩)
          else
            none
      | _ => none
  | .rotate id =>
      match state.calls.get id with
      | some ⟨token, some row, updated, .rotating⟩ =>
          some
            (state.put id ⟨token, some row, row.id :: updated, .lookingUp⟩)
      | _ => none
  | .readUser id =>
      match state.calls.get id with
      | some ⟨token, some row, updated, .lookingUp⟩ =>
          match state.db.userById row.userId with
          | none =>
              some
                (state.put id
                  ⟨token, some row, updated,
                    .returned (.error (Status.wrapped "look up user"))⟩)
          | some user =>
              some (state.put id ⟨token, some row, updated, .issuing user⟩)
      | _ => none
  | .issue id tokenId refreshToken now =>
      match state.calls.get id with
      | some ⟨token, some row, updated, .issuing user⟩ =>
          let issued := deps.issueTokens user tokenId refreshToken now
          if state.fresh issued.row then
            some
              (state.put id ⟨token, some row, updated, .committing user issued⟩)
          else
            none
      | _ => none
  | .commit id outcome =>
      match state.calls.get id with
      | some ⟨token, some row, updated, .revokingAll []⟩ =>
          some
            (state.finish id ⟨token, some row, updated, .revokingAll []⟩
              outcome (revokeRows updated state.db.refreshTokens)
              [.revokedAll id (state.aliveAmong updated)]
              (.error errInvalidRefresh)
              (Status.wrapped "commit revocation"))
      | some ⟨token, some row, updated, .committing user issued⟩ =>
          some
            (state.finish id
              ⟨token, some row, updated, .committing user issued⟩ outcome
              (revokeRows updated state.db.refreshTokens ++ [issued.row])
              [.exchanged id row.tokenHash issued.row.tokenHash]
              (.ok (respond user issued)) (Status.wrapped "commit"))
      | _ => none
  | .abort id cause =>
      match state.calls.get id with
      | some call =>
          if call.isOpen then
            some
              (state.put id
                { call with
                  stage := .returned (.error (Status.wrapped cause)) })
          else
            none
      | none => none

end Step

section Transition

variable (deps : Deps) (state : State)

/-- The label lets a call go on without a write to the tables. -/
inductive Moves : Label → Nat → Call → Call → Prop
  | missed
      {id now : Nat} {token : String} {updated : List UUID}
      (absent : state.db.token (deps.hashToken token) = none) :
      Moves (.select id now) id ⟨token, none, updated, .selecting⟩
        ⟨token, none, updated, .returned (.error errInvalidRefresh)⟩
  | reused
      {id now : Nat} {token : String} {row : TokenRow} {updated : List UUID}
      (stored : state.db.token (deps.hashToken token) = some row)
      (free : state.locked row.id = false) (isRevoked : row.revoked = true) :
      Moves (.select id now) id ⟨token, none, updated, .selecting⟩
        ⟨token, some row, updated, .reused⟩
  | expired
      {id now : Nat} {token : String} {row : TokenRow} {updated : List UUID}
      (stored : state.db.token (deps.hashToken token) = some row)
      (isAlive : row.revoked = false) :
      Moves (.select id now) id ⟨token, none, updated, .selecting⟩
        ⟨token, some row, updated, .returned (.error errExpiredRefresh)⟩
  | accepted
      {id now : Nat} {token : String} {row : TokenRow} {updated : List UUID}
      (stored : state.db.token (deps.hashToken token) = some row)
      (free : state.locked row.id = false) (isAlive : row.revoked = false) :
      Moves (.select id now) id ⟨token, none, updated, .selecting⟩
        ⟨token, some row, updated, .rotating⟩
  | snapshot
      {id : Nat} {token : String} {row : TokenRow} {updated : List UUID} :
      Moves (.revokeAll id) id ⟨token, some row, updated, .reused⟩
        ⟨token, some row, updated, .revokingAll (state.rowsOf row.userId)⟩
  | reached
      {id : Nat} {target : UUID} {token : String} {row : TokenRow}
      {updated pending : List UUID} (isPending : target ∈ pending)
      (free : target = row.id ∨ state.locked target = false) :
      Moves (.revokeRow id target) id
        ⟨token, some row, updated, .revokingAll pending⟩
        ⟨token, some row, target :: updated,
          .revokingAll (pending.filter fun other =>
            decide (other ≠ target))⟩
  | rotated
      {id : Nat} {token : String} {row : TokenRow} {updated : List UUID} :
      Moves (.rotate id) id ⟨token, some row, updated, .rotating⟩
        ⟨token, some row, row.id :: updated, .lookingUp⟩
  | orphaned
      {id : Nat} {token : String} {row : TokenRow} {updated : List UUID} :
      Moves (.readUser id) id ⟨token, some row, updated, .lookingUp⟩
        ⟨token, some row, updated,
          .returned (.error (Status.wrapped "look up user"))⟩
  | read
      {id : Nat} {token : String} {row : TokenRow} {updated : List UUID}
      {user : UserRow} (known : state.db.userById row.userId = some user) :
      Moves (.readUser id) id ⟨token, some row, updated, .lookingUp⟩
        ⟨token, some row, updated, .issuing user⟩
  | issued
      {id now : Nat} {tokenId : UUID} {refreshToken token : String}
      {row : TokenRow} {updated : List UUID} {user : UserRow}
      (isFresh :
        state.fresh
          (deps.issueTokens user tokenId refreshToken now).row = true) :
      Moves (.issue id tokenId refreshToken now) id
        ⟨token, some row, updated, .issuing user⟩
        ⟨token, some row, updated,
          .committing user
            (deps.issueTokens user tokenId refreshToken now)⟩
  | aborted
      {id : Nat} {cause : String} {call : Call}
      (isOpen : call.isOpen = true) :
      Moves (.abort id cause) id call
        { call with stage := .returned (.error (Status.wrapped cause)) }
  | uncommitted
      {id : Nat} {cause : String} {call : Call}
      (isOpen : call.isOpen = true) :
      Moves (.commit id .failed) id call
        { call with stage := .returned (.error (Status.wrapped cause)) }

/-- What the caller of a committed transaction is told. -/
def told (outcome : Outcome) (answer : Except Status TokenResponse)
    (broken : Status) : Except Status TokenResponse :=
  if outcome = .lost then .error broken else answer

inductive Transition : Label → State → Prop
  | nothing {label : Label} (atomic : ∀ id, ¬ label.advances id) :
      Transition label state
  | registered
      {req : Credentials} {passwordHash : String} {id : UUID}
      (user : UserRow) :
      Transition (.register req passwordHash id)
        { state with
          db := { state.db with users := state.db.users ++ [user] } }
  | loggedIn
      {req : Credentials} {tokenId : UUID} {refreshToken : String}
      {now : Nat} {outcome : Outcome} {user : UserRow}
      (authentic : deps.authenticate state.db req = .ok user)
      (committed : outcome ≠ .failed)
      (isFresh :
        state.fresh
          (deps.issueTokens user tokenId refreshToken now).row = true) :
      Transition (.login req tokenId refreshToken now outcome)
        (state.write
          (state.db.refreshTokens ++
            [(deps.issueTokens user tokenId refreshToken now).row])
          [.loggedIn (deps.hashToken refreshToken)])
  | loggedOut
      {token : String} {outcome : Outcome} {row : TokenRow}
      (stored : state.db.token (deps.hashToken token) = some row)
      (free : state.locked row.id = false) :
      Transition (.logout token outcome)
        (state.write (revokeRows [row.id] state.db.refreshTokens)
          (if row.revoked then [] else [.loggedOut row.tokenHash]))
  | began {token : String} :
      Transition (.refresh token)
        { state with
          calls := state.calls.launch ⟨token, none, [], .selecting⟩ }
  | moved
      {label : Label} {id : Nat} {call next : Call}
      (running : state.calls.get id = some call)
      (moves : Moves deps state label id call next) :
      Transition label (state.put id next)
  | revoked
      {id : Nat} {outcome : Outcome} {token : String} {row : TokenRow}
      {updated : List UUID}
      (running :
        state.calls.get id = some ⟨token, some row, updated, .revokingAll []⟩)
      (committed : outcome ≠ .failed) :
      Transition (.commit id outcome)
        ((state.write (revokeRows updated state.db.refreshTokens)
            [.revokedAll id (state.aliveAmong updated)]).put id
          ⟨token, some row, updated,
            .returned
              (told outcome (.error errInvalidRefresh)
                (Status.wrapped "commit revocation"))⟩)
  | exchanged
      {id : Nat} {outcome : Outcome} {token : String} {row : TokenRow}
      {updated : List UUID} {user : UserRow} {issued : Deps.Issued}
      (running :
        state.calls.get id =
          some ⟨token, some row, updated, .committing user issued⟩)
      (committed : outcome ≠ .failed) :
      Transition (.commit id outcome)
        ((state.write
            (revokeRows updated state.db.refreshTokens ++ [issued.row])
            [.exchanged id row.tokenHash issued.row.tokenHash]).put id
          ⟨token, some row, updated,
            .returned
              (told outcome (.ok (respond user issued))
                (Status.wrapped "commit"))⟩)

end Transition

section Inversion

variable {deps : Deps} {state next : State} {label : Label}

theorem finish_uncommitted
    (id : Nat) (call : Call) (rows : List TokenRow) (events : List Event)
    (answer : Except Status TokenResponse) (broken : Status) :
    state.finish id call .failed rows events answer broken =
      state.put id { call with stage := .returned (.error broken) } :=
  rfl

theorem finish_committed {outcome : Outcome} (committed : outcome ≠ .failed)
    (id : Nat) (call : Call) (rows : List TokenRow) (events : List Event)
    (answer : Except Status TokenResponse) (broken : Status) :
    state.finish id call outcome rows events answer broken =
      (state.write rows events).put id
        { call with stage := .returned (told outcome answer broken) } := by
  cases outcome with
  | failed => exact absurd rfl committed
  | done => rfl
  | lost => rfl

theorem transition_of_step (stepped : step deps state label = some next) :
    Transition deps state label next := by
  cases label with
  | register req passwordHash id =>
      simp only [step] at stepped
      split at stepped
      · cases stepped
        exact .nothing fun _ advances => advances
      · rename_i user _
        cases stepped
        exact .registered user
  | login req tokenId refreshToken now outcome =>
      simp only [step] at stepped
      split at stepped
      · cases stepped
        exact .nothing fun _ advances => advances
      · rename_i user authentic
        split at stepped
        · cases stepped
          exact .nothing fun _ advances => advances
        all_goals
          split at stepped
          · rename_i isFresh
            cases stepped
            exact .loggedIn authentic (by decide) isFresh
          · cases stepped
  | logout token outcome =>
      simp only [step] at stepped
      split at stepped
      · cases stepped
        exact .nothing fun _ advances => advances
      · cases stepped
        exact .nothing fun _ advances => advances
      all_goals
        rename_i row stored
        split at stepped
        · cases stepped
        · rename_i free
          cases stepped
          exact .loggedOut stored (Bool.eq_false_iff.mpr free)
  | refresh token =>
      cases stepped
      exact .began
  | select id now =>
      simp only [step] at stepped
      split at stepped
      · rename_i token updated running
        split at stepped
        · rename_i absent
          cases stepped
          exact .moved running (.missed absent)
        · rename_i row stored
          split at stepped
          · cases stepped
          · rename_i isLocked
            have free := Bool.eq_false_iff.mpr isLocked
            split at stepped
            · rename_i isRevoked
              cases stepped
              exact .moved running (.reused stored free isRevoked)
            · rename_i isAlive
              have alive := Bool.eq_false_iff.mpr isAlive
              split at stepped
              · cases stepped
                exact .moved running (.expired stored alive)
              · cases stepped
                exact .moved running (.accepted stored free alive)
      · cases stepped
  | revokeAll id =>
      simp only [step] at stepped
      split at stepped
      · rename_i token row updated running
        cases stepped
        exact .moved running .snapshot
      · cases stepped
  | revokeRow id target =>
      simp only [step] at stepped
      split at stepped
      · rename_i token row updated pending running
        split at stepped
        · rename_i reachable
          cases stepped
          exact .moved running (.reached reachable.1 reachable.2)
        · cases stepped
      · cases stepped
  | rotate id =>
      simp only [step] at stepped
      split at stepped
      · rename_i token row updated running
        cases stepped
        exact .moved running .rotated
      · cases stepped
  | readUser id =>
      simp only [step] at stepped
      split at stepped
      · rename_i token row updated running
        split at stepped
        · cases stepped
          exact .moved running .orphaned
        · rename_i user known
          cases stepped
          exact .moved running (.read known)
      · cases stepped
  | issue id tokenId refreshToken now =>
      simp only [step] at stepped
      split at stepped
      · rename_i token row updated user running
        split at stepped
        · rename_i isFresh
          cases stepped
          exact .moved running (.issued isFresh)
        · cases stepped
      · cases stepped
  | commit id outcome =>
      simp only [step] at stepped
      split at stepped
      · rename_i token row updated running
        cases stepped
        by_cases committed : outcome = .failed
        · rw [committed, finish_uncommitted]
          exact .moved running (.uncommitted rfl)
        · rw [finish_committed committed]
          exact .revoked running committed
      · rename_i token row updated user issued running
        cases stepped
        by_cases committed : outcome = .failed
        · rw [committed, finish_uncommitted]
          exact .moved running (.uncommitted rfl)
        · rw [finish_committed committed]
          exact .exchanged running committed
      · cases stepped
  | abort id cause =>
      simp only [step] at stepped
      split at stepped
      · rename_i call running
        split at stepped
        · rename_i isOpen
          cases stepped
          exact .moved running (.aborted isOpen)
        · cases stepped
      · cases stepped

end Inversion

end TicketWave.Auth
