import TicketWave.Inventory.Transactions
import TicketWave.Library.Registry
import TicketWave.Library.Runs
import Mathlib.Logic.Function.Basic

/-!
# Inventory as a running service

Any number of calls and sweeps; a label advances one of them by a transaction
or a Redis command.  A transaction has a start, which fixes `now()`, and a
commit.  A call can be dropped at any point.  `history` and `answers` only
record what was committed and returned.
-/

namespace TicketWave.Inventory

open Library

structure RedisEntry where
  value : String
  deadline : Nat
  deriving DecidableEq, Repr

abbrev Redis := String → Option RedisEntry

/-- `EXISTS`: a key no longer exists from its deadline on. -/
def Redis.has (redis : Redis) (now : Nat) (key : String) : Bool :=
  match redis key with
  | none => false
  | some entry => decide (now < entry.deadline)

def RedisCommand.apply (now : Nat) (redis : Redis) : RedisCommand → Redis
  | .set key value ttl => Function.update redis key (some ⟨value, now + ttl⟩)
  | .del key => Function.update redis key none

/-- A seat request that has passed `validateSeatRequest`. -/
structure Accepted (uuid : UuidText) where
  req : SeatRequest
  valid : validateSeatRequest uuid req = none

inductive Task (uuid : UuidText) where
  /-- the transaction of a call has begun -/
  | opened (method : Method) (request : Accepted uuid) (start : Nat)
  /-- it has committed, and these Redis commands are left -/
  | mirroring
      (method : Method) (request : Accepted uuid)
      (commands : List RedisCommand)
  /-- a sweep between its `SELECT` and its transaction -/
  | checking (left expired : List UUID)
  | sweeping (expired : List UUID) (start : Nat)

/-- A committed change to seats, `time` being the moment of the commit. -/
inductive Commit where
  | call
      (task : Nat) (method : Method) (order : UUID) (seats : List UUID)
      (time : Nat)
  | sweep (task : Nat) (freed : List UUID) (time : Nat)
  deriving DecidableEq, Repr

structure State (uuid : UuidText) where
  db : Db
  redis : Redis
  clock : Nat
  tasks : Registry (Task uuid)
  answers : List (Nat × Option Status)
  history : List Commit

def State.empty (uuid : UuidText) : State uuid where
  db := Db.empty
  redis := fun _ => none
  clock := 0
  tasks := Registry.empty
  answers := []
  history := []

variable {uuid : UuidText}

def State.put (state : State uuid) (id : Nat) (task : Task uuid) : State uuid :=
  { state with tasks := state.tasks.put id task }

def State.launch (state : State uuid) (task : Task uuid) : State uuid :=
  { state with tasks := state.tasks.launch task }

def State.finish (state : State uuid) (id : Nat) : State uuid :=
  { state with tasks := state.tasks.finish id }

def State.answer (state : State uuid) (id : Nat) (reply : Option Status) :
    State uuid :=
  { state with answers := (id, reply) :: state.answers }

inductive Label where
  | tick (milliseconds : Nat)
  | createEvent
      (req : CreateEventRequest) (eventId : UUID) (seatIds : List UUID)
  | beginCall (method : Method) (req : SeatRequest)
  | commitCall (task : Nat) (rowId : UUID)
  | redis (task : Nat) (succeeds : Bool)
  | reply (task : Nat)
  | drop (task : Nat)
  | sweepList
  | sweepCheck (task : Nat) (succeeds : Bool)
  | sweepOpen (task : Nat)
  | sweepCommit (task : Nat) (newId : UUID → UUID)

def heldIds (db : Db) : List UUID :=
  (db.seats.filter fun row => decide (row.status = .held)).map SeatRow.id

def step (state : State uuid) : Label → Option (State uuid)
  | .tick milliseconds =>
      some { state with clock := state.clock + milliseconds }
  | .createEvent req eventId seatIds =>
      if (seatIds.length : Int) ≠ req.seatCount then
        none
      else
        match createEvent state.db req eventId seatIds state.clock with
        | .error _ => some state
        | .ok db => some { state with db := db }
  | .beginCall method req =>
      match checked : validateSeatRequest uuid req with
      | some err =>
          some
            { state.answer state.tasks.next (some err) with
              tasks := state.tasks.skip }
      | none => some (state.launch (.opened method ⟨req, checked⟩ state.clock))
  | .commitCall id rowId =>
      match state.tasks.get id with
      | some (.opened method request start) =>
          match
            transact uuid method state.db request.req rowId start with
          | .error err => some ((state.finish id).answer id (some err))
          | .ok done =>
              some
                { state.put id (.mirroring method request done.commands) with
                  db := done.db
                  history :=
                    .call id method done.order done.seats state.clock ::
                      state.history }
      | _ => none
  | .redis id succeeds =>
      match state.tasks.get id with
      | some (.mirroring method request (command :: rest)) =>
          -- a failed command is logged and the loop goes on
          some
            { state.put id (.mirroring method request rest) with
              redis :=
                if succeeds then command.apply state.clock state.redis
                else state.redis }
      | _ => none
  | .reply id =>
      match state.tasks.get id with
      | some (.mirroring _ _ []) => some ((state.finish id).answer id none)
      | _ => none
  | .drop id =>
      match state.tasks.get id with
      | some _ => some (state.finish id)
      | none => none
  | .sweepList => some (state.launch (.checking (heldIds state.db) []))
  | .sweepCheck id succeeds =>
      match state.tasks.get id with
      | some (.checking (seat :: left) expired) =>
          if succeeds &&
              !(state.redis.has state.clock (holdKey (uuid.string seat))) then
            some (state.put id (.checking left (expired ++ [seat])))
          else
            some (state.put id (.checking left expired))
      | _ => none
  | .sweepOpen id =>
      match state.tasks.get id with
      | some (.checking [] expired) =>
          if expired.length = 0 then
            some (state.finish id)
          else
            some (state.put id (.sweeping expired state.clock))
      | _ => none
  | .sweepCommit id newId =>
      match state.tasks.get id with
      | some (.sweeping expired start) =>
          match sweepHolds uuid state.db expired newId start with
          | .error _ => some (state.finish id)
          | .ok db =>
              some
                { state.finish id with
                  db := db
                  history :=
                    .sweep id (freedIds state.db expired) state.clock ::
                      state.history }
      | _ => none

/-- Every successor of a state, one constructor for each outcome of a
label. -/
inductive Transition (state : State uuid) : Label → State uuid → Prop
  | tick (milliseconds : Nat) :
      Transition state (.tick milliseconds)
        { state with clock := state.clock + milliseconds }
  | eventCreated
      {req : CreateEventRequest} {eventId : UUID} {seatIds : List UUID}
      {db : Db}
      (counted : (seatIds.length : Int) = req.seatCount)
      (committed :
        createEvent state.db req eventId seatIds state.clock = .ok db) :
      Transition state (.createEvent req eventId seatIds)
        { state with db := db }
  | eventRefused
      {req : CreateEventRequest} {eventId : UUID} {seatIds : List UUID} :
      Transition state (.createEvent req eventId seatIds) state
  | callRefused
      {method : Method} {req : SeatRequest} {err : Status}
      (refused : validateSeatRequest uuid req = some err) :
      Transition state (.beginCall method req)
        { state.answer state.tasks.next (some err) with
          tasks := state.tasks.skip }
  | callBegun
      (method : Method) (request : Accepted uuid) :
      Transition state (.beginCall method request.req)
        (state.launch (.opened method request state.clock))
  | callCommitted
      {id : Nat} {rowId : UUID} {method : Method}
      {request : Accepted uuid} {start : Nat} {done : Committed}
      (running : state.tasks.get id = some (.opened method request start))
      (committed :
        transact uuid method state.db request.req rowId start = .ok done) :
      Transition state (.commitCall id rowId)
        { state.put id (.mirroring method request done.commands) with
          db := done.db
          history :=
            .call id method done.order done.seats state.clock :: state.history }
  | callFailed
      {id : Nat} {rowId : UUID} {method : Method}
      {request : Accepted uuid} {start : Nat} {err : Status}
      (running : state.tasks.get id = some (.opened method request start))
      (failed :
        transact uuid method state.db request.req rowId start = .error err) :
      Transition state (.commitCall id rowId)
        ((state.finish id).answer id (some err))
  | redis
      {id : Nat} {succeeds : Bool} {method : Method}
      {request : Accepted uuid} {command : RedisCommand}
      {rest : List RedisCommand}
      (running :
        state.tasks.get id =
          some (.mirroring method request (command :: rest))) :
      Transition state (.redis id succeeds)
        { state.put id (.mirroring method request rest) with
          redis :=
            if succeeds then command.apply state.clock state.redis
            else state.redis }
  | replied
      {id : Nat} {method : Method} {request : Accepted uuid}
      (running : state.tasks.get id = some (.mirroring method request [])) :
      Transition state (.reply id) ((state.finish id).answer id none)
  | dropped
      {id : Nat} {task : Task uuid} (running : state.tasks.get id = some task) :
      Transition state (.drop id) (state.finish id)
  | sweepListed :
      Transition state .sweepList
        (state.launch (.checking (heldIds state.db) []))
  | seatExpired
      {id : Nat} {seat : UUID} {left expired : List UUID}
      (running : state.tasks.get id = some (.checking (seat :: left) expired))
      (gone :
        state.redis.has state.clock (holdKey (uuid.string seat)) = false) :
      Transition state (.sweepCheck id true)
        (state.put id (.checking left (expired ++ [seat])))
  | seatKept
      {id : Nat} {succeeds : Bool} {seat : UUID} {left expired : List UUID}
      (running : state.tasks.get id = some (.checking (seat :: left) expired)) :
      Transition state (.sweepCheck id succeeds)
        (state.put id (.checking left expired))
  | sweepSkipped
      {id : Nat} (running : state.tasks.get id = some (.checking [] [])) :
      Transition state (.sweepOpen id) (state.finish id)
  | sweepOpened
      {id : Nat} {expired : List UUID}
      (running : state.tasks.get id = some (.checking [] expired)) :
      Transition state (.sweepOpen id)
        (state.put id (.sweeping expired state.clock))
  | sweepCommitted
      {id : Nat} {newId : UUID → UUID} {expired : List UUID}
      {start : Nat} {db : Db}
      (running : state.tasks.get id = some (.sweeping expired start))
      (committed : sweepHolds uuid state.db expired newId start = .ok db) :
      Transition state (.sweepCommit id newId)
        { state.finish id with
          db := db
          history :=
            .sweep id (freedIds state.db expired) state.clock :: state.history }
  | sweepFailed
      {id : Nat} {newId : UUID → UUID} {expired : List UUID} {start : Nat}
      (running : state.tasks.get id = some (.sweeping expired start)) :
      Transition state (.sweepCommit id newId) (state.finish id)

theorem transition_of_step {state next : State uuid} {label : Label}
    (stepped : step state label = some next) : Transition state label next := by
  cases label with
  | tick milliseconds =>
      cases stepped
      exact .tick milliseconds
  | createEvent req eventId seatIds =>
      simp only [step] at stepped
      split at stepped
      · cases stepped
      · rename_i counted
        split at stepped
        · cases stepped
          exact .eventRefused
        · rename_i db committed
          cases stepped
          exact .eventCreated (Decidable.not_not.mp counted) committed
  | beginCall method req =>
      simp only [step] at stepped
      split at stepped
      · rename_i err refused
        cases stepped
        exact .callRefused refused
      · rename_i valid
        cases stepped
        exact .callBegun method ⟨req, valid⟩
  | commitCall id rowId =>
      simp only [step] at stepped
      split at stepped
      · rename_i method request start running
        split at stepped
        · rename_i err failed
          cases stepped
          exact .callFailed running failed
        · rename_i done committed
          cases stepped
          exact .callCommitted running committed
      · cases stepped
  | redis id succeeds =>
      simp only [step] at stepped
      split at stepped
      · rename_i method request command rest running
        cases stepped
        exact .redis running
      · cases stepped
  | reply id =>
      simp only [step] at stepped
      split at stepped
      · rename_i method request running
        cases stepped
        exact .replied running
      · cases stepped
  | drop id =>
      simp only [step] at stepped
      split at stepped
      · rename_i task running
        cases stepped
        exact .dropped running
      · cases stepped
  | sweepList =>
      cases stepped
      exact .sweepListed
  | sweepCheck id succeeds =>
      simp only [step] at stepped
      split at stepped
      · rename_i seat left expired running
        split at stepped
        · rename_i absent
          cases stepped
          simp only [Bool.and_eq_true, Bool.not_eq_true'] at absent
          obtain ⟨rfl, gone⟩ := absent
          exact .seatExpired running gone
        · cases stepped
          exact .seatKept running
      · cases stepped
  | sweepOpen id =>
      simp only [step] at stepped
      split at stepped
      · rename_i expired running
        split at stepped
        · rename_i none
          cases stepped
          have empty : expired = [] := List.length_eq_zero_iff.mp none
          subst empty
          exact .sweepSkipped running
        · cases stepped
          exact .sweepOpened running
      · cases stepped
  | sweepCommit id newId =>
      simp only [step] at stepped
      split at stepped
      · rename_i expired start running
        split at stepped
        · cases stepped
          exact .sweepFailed running
        · rename_i db committed
          cases stepped
          exact .sweepCommitted running committed
      · cases stepped

/-- The part of a transition that concerns the tables: almost every step
leaves them alone. -/
inductive Effect (state next : State uuid) : Prop
  | nothing
      (db : next.db = state.db) (history : next.history = state.history)
  | created
      {req : CreateEventRequest} {eventId : UUID} {seatIds : List UUID}
      (committed :
        createEvent state.db req eventId seatIds state.clock = .ok next.db)
      (history : next.history = state.history)
  | called
      {id : Nat} {rowId : UUID} {method : Method}
      {request : Accepted uuid} {start : Nat} {done : Committed}
      (committed :
        transact uuid method state.db request.req rowId start = .ok done)
      (db : next.db = done.db)
      (history :
        next.history =
          .call id method done.order done.seats state.clock :: state.history)
  | swept
      {id : Nat} {newId : UUID → UUID} {expired : List UUID} {start : Nat}
      (committed : sweepHolds uuid state.db expired newId start = .ok next.db)
      (history :
        next.history =
          .sweep id (freedIds state.db expired) state.clock :: state.history)

theorem Transition.effect {state next : State uuid} {label : Label}
    (transition : Transition state label next) : Effect state next := by
  cases transition with
  | eventCreated _ committed => exact .created committed rfl
  | callCommitted _ committed => exact .called committed rfl rfl
  | sweepCommitted _ committed => exact .swept committed rfl
  | _ => exact .nothing rfl rfl

end TicketWave.Inventory
