import TicketWave.Library.Runs
import TicketWave.Order.Model

/-!
# CreateOrder as a running service

Any number of runs of `CreateOrder`, cut at its remote operations.  A reply is
part of the label, so every downstream behaviour is covered, and a run can
crash at any point.  `log` only records what each run has done.
-/

namespace TicketWave.Order

open Library

inductive Stage where
  /-- before `s.createOrder` -/
  | creating
  /-- before the look-up of `s.replay` -/
  | replaying
  | reserving
  /-- `s.releaseSeats` after a reservation that broke down -/
  | abandoning
  | charging
  /-- `s.releaseSeats` after a payment that was refused or broke down -/
  | compensating (refused : Bool)
  /-- `s.fail`, followed by the return of `answer` -/
  | failing (reason : OrderFailureReason) (answer : Status)
  | confirming
  /-- the transition to `CONFIRMED` -/
  | finishing
  | returned (result : Except Status CreateOrderResponse)
  deriving DecidableEq

/-- The order row exists and the run has still work to do on it. -/
def Stage.active : Stage → Bool
  | .creating => false
  | .replaying => false
  | .returned _ => false
  | .reserving => true
  | .abandoning => true
  | .charging => true
  | .compensating _ => true
  | .failing _ _ => true
  | .confirming => true
  | .finishing => true

/-- A request that has passed `validateCreateOrder`. -/
structure Accepted (uuid : UuidText) where
  req : CreateOrderRequest
  valid : validateCreateOrder uuid req = none

structure Run (uuid : UuidText) where
  request : Accepted uuid
  orderId : UUID
  stage : Stage
  /-- the call of the stage has been sent -/
  sent : Bool

variable {uuid : UuidText}

def Run.order (run : Run uuid) : OrderSnapshot where
  id := run.orderId
  userId := run.request.req.userId
  eventId := run.request.req.eventId
  seatIds := run.request.req.seatIds
  amountCents := run.request.req.amountCents

def Run.goto (run : Run uuid) (stage : Stage) : Run uuid :=
  { run with stage := stage, sent := false }

inductive Call where
  | seats (method : Inventory.Method) (req : Inventory.SeatRequest)
  | charge (req : Payment.ChargeRequest)
  deriving DecidableEq, Repr

def OrderSnapshot.seatRequest (uuid : UuidText) (order : OrderSnapshot) :
    Inventory.SeatRequest where
  eventId := order.eventId
  seatIds := order.seatIds
  orderId := uuid.string order.id

def OrderSnapshot.chargeRequest (uuid : UuidText) (order : OrderSnapshot) :
    Payment.ChargeRequest where
  orderId := uuid.string order.id
  amountCents := order.amountCents

def Run.call (run : Run uuid) : Option Call :=
  match run.stage with
  | .reserving => some (.seats .reserveSeats (run.order.seatRequest uuid))
  | .abandoning => some (.seats .releaseSeats (run.order.seatRequest uuid))
  | .charging => some (.charge (run.order.chargeRequest uuid))
  | .compensating _ => some (.seats .releaseSeats (run.order.seatRequest uuid))
  | .confirming => some (.seats .confirmSeats (run.order.seatRequest uuid))
  | .creating | .replaying | .failing _ _ | .finishing | .returned _ => none

def errNotFinalized : Status :=
  Status.error .internal "order could not be finalized, contact support"

/-- Where the reply of its call takes a stage; `none` is success. -/
def Stage.afterReply : Stage → Option Status → Stage
  | .reserving, none => .charging
  | .reserving, some err =>
      if err.isRefusal then .failing .seatsUnavailable errSeatsUnavailable
      else .abandoning
  | .abandoning, _ => .failing .serviceUnavailable errServiceUnavailable
  | .charging, none => .confirming
  | .charging, some err => .compensating err.isRefusal
  | .compensating refused, _ =>
      if refused then .failing .paymentDeclined errPaymentDeclined
      else .failing .serviceUnavailable errServiceUnavailable
  | .confirming, none => .finishing
  | .confirming, some _ => .returned (.error errNotFinalized)
  | .creating, _ => .creating
  | .replaying, _ => .replaying
  | .failing reason answer, _ => .failing reason answer
  | .finishing, _ => .finishing
  | .returned result, _ => .returned result

/-- What a run has done. -/
inductive Action where
  /-- its order row and the `ORDER_CREATED` row were committed -/
  | inserted
  /-- a transition was committed; `acknowledged` unless its reply was lost -/
  | moved (status : OrderStatus) (acknowledged : Bool)
  | invoked (call : Call)
  | received (call : Call) (reply : Option Status)
  deriving DecidableEq, Repr

/-- An error of the driver, with no text of the source around it. -/
def connectionLost : DbError :=
  ⟨none, ""⟩

def Stage.afterCreate : Option DbError → Stage
  | none => .reserving
  | some err =>
      if isDuplicateKey err then .replaying
      else .returned (.error (Status.wrapped err.message))

def Run.create (run : Run uuid) (db : Db) (outcome : Outcome) (rowId : UUID)
    (now : Nat) : Attempt Db DbError :=
  attempt outcome db
    (createOrder uuid db run.order run.request.req.idempotencyKey rowId now)
    connectionLost

def Run.transition (run : Run uuid) (db : Db) (newStatus : OrderStatus)
    (type : OrderEventType) (reason : OrderFailureReason) (outcome : Outcome)
    (rowId : UUID) (now : Nat) : Attempt Db DbError :=
  attempt outcome db
    (Order.transition uuid db run.order newStatus type reason rowId now)
    connectionLost

structure Performed where
  db : Db
  stage : Stage
  action : Option Action

/-- The next database operation of a run, if that is what comes next. -/
def Run.perform (run : Run uuid) (db : Db) (outcome : Outcome) (rowId : UUID)
    (now : Nat) : Option Performed :=
  match run.stage with
  | .creating =>
      let tx := run.create db outcome rowId now
      some
        { db := tx.db
          stage := Stage.afterCreate tx.error
          action := if tx.committed then some .inserted else none }
  | .replaying =>
      some
        { db := db
          stage :=
            .returned
              (if outcome = .done then replay uuid db run.request.req
              else .error errLookUp)
          action := none }
  | .failing reason answer =>
      -- `fail` only logs an error of the transition
      let tx := run.transition db .failed .failed reason outcome rowId now
      some
        { db := tx.db
          stage := .returned (.error answer)
          action :=
            if tx.committed then some (.moved .failed tx.error.isNone)
            else none }
  | .finishing =>
      let tx :=
        run.transition db .confirmed .confirmed .unspecified outcome rowId
          now
      some
        { db := tx.db
          stage :=
            .returned
              (match tx.error with
              | none => .ok ⟨uuid.string run.orderId, .confirmed⟩
              | some _ => .error (Status.wrapped "mark order confirmed"))
          action :=
            if tx.committed then some (.moved .confirmed tx.error.isNone)
            else none }
  | .reserving | .abandoning | .charging | .compensating _ | .confirming
  | .returned _ => none

structure Entry where
  run : Nat
  req : CreateOrderRequest
  orderId : UUID
  action : Action
  deriving DecidableEq, Repr

structure State (uuid : UuidText) where
  db : Db
  runs : Registry (Run uuid)
  log : List Entry

def State.empty (uuid : UuidText) : State uuid where
  db := Db.empty
  runs := Registry.empty
  log := []

def State.put (state : State uuid) (id : Nat) (run : Run uuid) : State uuid :=
  { state with runs := state.runs.put id run }

def Run.entry (run : Run uuid) (id : Nat) (action : Action) : Entry where
  run := id
  req := run.request.req
  orderId := run.orderId
  action := action

inductive Label where
  | start (req : CreateOrderRequest) (orderId : UUID)
  | database (run : Nat) (outcome : Outcome) (rowId : UUID) (now : Nat)
  | invoke (run : Nat)
  | answer (run : Nat) (reply : Option Status)
  | crash (run : Nat)

def step (state : State uuid) : Label → Option (State uuid)
  | .start req orderId =>
      match checked : validateCreateOrder uuid req with
      | some _ => some { state with runs := state.runs.skip }
      | none =>
          some
            { state with
              runs :=
                state.runs.launch ⟨⟨req, checked⟩, orderId, .creating, false⟩ }
  | .database id outcome rowId now =>
      match state.runs.get id with
      | none => none
      | some run =>
          match run.perform state.db outcome rowId now with
          | none => none
          | some performed =>
              some
                { db := performed.db
                  runs := state.runs.put id (run.goto performed.stage)
                  log :=
                    performed.action.toList.map (run.entry id) ++ state.log }
  | .invoke id =>
      match state.runs.get id with
      | none => none
      | some run =>
          match run.call, run.sent with
          | some call, false =>
              some
                { state.put id { run with sent := true } with
                  log := run.entry id (.invoked call) :: state.log }
          | _, _ => none
  | .answer id reply =>
      match state.runs.get id with
      | none => none
      | some run =>
          match run.call, run.sent with
          | some call, true =>
              some
                { state.put id (run.goto (run.stage.afterReply reply)) with
                  log := run.entry id (.received call reply) :: state.log }
          | _, _ => none
  | .crash id =>
      match state.runs.get id with
      | none => none
      | some _ => some { state with runs := state.runs.finish id }

inductive Transition (state : State uuid) : Label → State uuid → Prop
  | refused {req : CreateOrderRequest} {orderId : UUID} :
      Transition state (.start req orderId)
        { state with runs := state.runs.skip }
  | started (request : Accepted uuid) (orderId : UUID) :
      Transition state (.start request.req orderId)
        { state with
          runs := state.runs.launch ⟨request, orderId, .creating, false⟩ }
  | performed
      {id : Nat} {outcome : Outcome} {rowId : UUID} {now : Nat}
      {run : Run uuid} {performed : Performed}
      (running : state.runs.get id = some run)
      (done : run.perform state.db outcome rowId now = some performed) :
      Transition state (.database id outcome rowId now)
        { db := performed.db
          runs := state.runs.put id (run.goto performed.stage)
          log := performed.action.toList.map (run.entry id) ++ state.log }
  | invoked
      {id : Nat} {run : Run uuid} {call : Call}
      (running : state.runs.get id = some run)
      (calls : run.call = some call) (unsent : run.sent = false) :
      Transition state (.invoke id)
        { state.put id { run with sent := true } with
          log := run.entry id (.invoked call) :: state.log }
  | answered
      {id : Nat} {reply : Option Status} {run : Run uuid} {call : Call}
      (running : state.runs.get id = some run)
      (calls : run.call = some call) (sent : run.sent = true) :
      Transition state (.answer id reply)
        { state.put id (run.goto (run.stage.afterReply reply)) with
          log := run.entry id (.received call reply) :: state.log }
  | crashed
      {id : Nat} {run : Run uuid}
      (running : state.runs.get id = some run) :
      Transition state (.crash id)
        { state with runs := state.runs.finish id }

theorem transition_of_step {state next : State uuid} {label : Label}
    (stepped : step state label = some next) : Transition state label next := by
  cases label with
  | start req orderId =>
      simp only [step] at stepped
      split at stepped
      · cases stepped
        exact .refused
      · rename_i valid
        cases stepped
        exact .started ⟨req, valid⟩ orderId
  | database id outcome rowId now =>
      simp only [step] at stepped
      split at stepped
      · cases stepped
      · rename_i run running
        split at stepped
        · cases stepped
        · rename_i performed done
          cases stepped
          exact .performed running done
  | invoke id =>
      simp only [step] at stepped
      split at stepped
      · cases stepped
      · rename_i run running
        split at stepped
        · rename_i call calls unsent
          cases stepped
          exact .invoked running calls unsent
        · cases stepped
  | answer id reply =>
      simp only [step] at stepped
      split at stepped
      · cases stepped
      · rename_i run running
        split at stepped
        · rename_i call calls sent
          cases stepped
          exact .answered running calls sent
        · cases stepped
  | crash id =>
      simp only [step] at stepped
      split at stepped
      · cases stepped
      · rename_i run running
        cases stepped
        exact .crashed running

/-- The transition that ends a run, and what the run returns after it.  The
result is not fixed when the reply of the `CONFIRMED` transition is lost. -/
inductive Closes (run : Run uuid) :
    OrderStatus → OrderEventType → OrderFailureReason → Bool →
      Except Status CreateOrderResponse → Prop
  | confirmed
      {acknowledged : Bool} {result : Except Status CreateOrderResponse}
      (stage : run.stage = .finishing)
      (answers :
        acknowledged = true →
          result = .ok ⟨uuid.string run.orderId, .confirmed⟩) :
      Closes run .confirmed .confirmed .unspecified acknowledged result
  | failed
      {reason : OrderFailureReason} {answer : Status} {acknowledged : Bool}
      (stage : run.stage = .failing reason answer) :
      Closes run .failed .failed reason acknowledged (.error answer)

/-- The database operations of a run.  An insertion and a transition may be
committed with their reply lost. -/
inductive Effect (run : Run uuid) (db : Db) (outcome : Outcome) :
    Performed → Prop
  | inserted
      {next : Db} {stage : Stage} {rowId : UUID} {now : Nat}
      (creating : run.stage = .creating) (reached : outcome ≠ .failed)
      (committed :
        createOrder uuid db run.order run.request.req.idempotencyKey rowId
          now = .ok next)
      (goes :
        stage = .reserving ∨
          outcome = .lost ∧ ∃ result, stage = .returned result) :
      Effect run db outcome ⟨next, stage, some .inserted⟩
  | moved
      {next : Db} {status : OrderStatus} {type : OrderEventType}
      {reason : OrderFailureReason} {acknowledged : Bool}
      {result : Except Status CreateOrderResponse} {rowId : UUID} {now : Nat}
      (closes : Closes run status type reason acknowledged result)
      (committed :
        Order.transition uuid db run.order status type reason rowId now =
          .ok next) :
      Effect run db outcome
        ⟨next, .returned result, some (.moved status acknowledged)⟩
  | duplicate (creating : run.stage = .creating) :
      Effect run db outcome ⟨db, .replaying, none⟩
  | nothing {result : Except Status CreateOrderResponse} :
      Effect run db outcome ⟨db, .returned result, none⟩

theorem Stage.afterCreate_of_error
    {err : Option DbError} (failed : err ≠ none) :
    Stage.afterCreate err = .replaying ∨
      ∃ result, Stage.afterCreate err = .returned result := by
  cases err with
  | none => exact absurd rfl failed
  | some err =>
      unfold Stage.afterCreate
      by_cases duplicate : isDuplicateKey err = true
      · exact Or.inl (if_pos duplicate)
      · exact Or.inr ⟨_, if_neg duplicate⟩

theorem effect_of_perform {run : Run uuid} {db : Db} {outcome : Outcome}
    {rowId : UUID} {now : Nat} {performed : Performed}
    (done : run.perform db outcome rowId now = some performed) :
    Effect run db outcome performed := by
  unfold Run.perform at done
  split at done
  · rename_i creating
    cases done
    cases committed : (run.create db outcome rowId now).committed with
    | true =>
        obtain ⟨reached, ran⟩ := attempt_committed committed
        apply Effect.inserted creating reached ran
        rcases attempt_error_of_committed committed with
          success | ⟨lost, broken⟩
        · left
          have none : (run.create db outcome rowId now).error = none := success
          rw [none]
          rfl
        · right
          have some :
              (run.create db outcome rowId now).error = some connectionLost :=
            broken
          rw [some]
          exact ⟨lost, _, rfl⟩
    | false =>
        obtain ⟨unchanged, failed⟩ := attempt_uncommitted committed
        have same : (run.create db outcome rowId now).db = db := unchanged
        rw [same]
        rcases Stage.afterCreate_of_error failed with
          replaying | ⟨result, returned⟩
        · have stage :
              Stage.afterCreate (run.create db outcome rowId now).error =
                .replaying :=
            replaying
          rw [stage]
          exact .duplicate creating
        · have stage :
              Stage.afterCreate (run.create db outcome rowId now).error =
                .returned result :=
            returned
          rw [stage]
          exact .nothing
  · cases done
    exact .nothing
  · rename_i reason answer failing
    cases done
    cases committed :
        (run.transition db .failed .failed reason outcome rowId
          now).committed with
    | true =>
        have ran := (attempt_committed committed).2
        exact .moved (.failed failing) ran
    | false =>
        have unchanged := (attempt_uncommitted committed).1
        have same :
            (run.transition db .failed .failed reason outcome rowId now).db =
              db :=
          unchanged
        rw [same]
        exact .nothing
  · rename_i finishing
    cases done
    cases committed :
        (run.transition db .confirmed .confirmed .unspecified outcome rowId
          now).committed with
    | true =>
        have ran := (attempt_committed committed).2
        refine .moved (.confirmed finishing ?_) ran
        intro acknowledged
        rw [Option.isNone_iff_eq_none.mp acknowledged]
    | false =>
        have unchanged := (attempt_uncommitted committed).1
        have same :
            (run.transition db .confirmed .confirmed .unspecified outcome
              rowId now).db = db :=
          unchanged
        rw [same]
        exact .nothing
  all_goals cases done

end TicketWave.Order
