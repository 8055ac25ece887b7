import TicketWave.Inventory.Model
import TicketWave.Payment.Model
import Mathlib.Data.List.Sort
import Mathlib.Data.String.Basic

/-!
# Orders: tables, requests and transactions

As `services/order/internal/server` writes them.
-/

namespace TicketWave.Order

open Library

inductive OrderStatus where
  | pending
  | confirmed
  | failed
  deriving DecidableEq, Repr

inductive OrderEventType where
  | unspecified
  | created
  | confirmed
  | failed
  deriving DecidableEq, Repr

inductive OrderFailureReason where
  | unspecified
  | seatsUnavailable
  | paymentDeclined
  | serviceUnavailable
  deriving DecidableEq, Repr

structure OrderRow where
  id : UUID
  userId : UUID
  eventId : UUID
  seatIds : List UUID
  amountCents : Int
  status : OrderStatus
  idempotencyKey : Option String
  failureReason : Option String
  deriving DecidableEq, Repr

structure OrderEvent where
  messageId : String
  type : OrderEventType
  orderId : String
  userId : String
  eventId : String
  seatIds : List String
  amountCents : Int
  failureReason : OrderFailureReason
  deriving DecidableEq, Repr

structure Db where
  orders : List OrderRow
  outbox : List (Outbox.Row OrderEvent)
  deriving DecidableEq, Repr

def Db.empty : Db :=
  ⟨[], []⟩

def Db.order (db : Db) (id : UUID) : Option OrderRow :=
  lookup OrderRow.id db.orders id

structure CreateOrderRequest where
  userId : String
  eventId : String
  seatIds : List String
  amountCents : Int
  idempotencyKey : String
  deriving DecidableEq, Repr

structure CreateOrderResponse where
  orderId : String
  status : OrderStatus
  deriving DecidableEq, Repr

def maxSeatsPerOrder : Nat := 10
def maxAmountCents : Int := 100000000

/-- The character class of the pattern `^[A-Za-z0-9_-]{1,64}$`. -/
def keyChar (char : Char) : Bool :=
  char.isAlphanum || char == '_' || char == '-'

def validIdempotencyKey (key : String) : Bool :=
  key == "" ||
    (decide (1 ≤ key.length ∧ key.length ≤ 64) && key.toList.all keyChar)

def validateCreateOrder (uuid : UuidText) (req : CreateOrderRequest) :
    Option Status :=
  match uuid.parse req.userId with
  | none => some (Status.invalid "user_id must be a UUID")
  | some _ =>
      match uuid.parse req.eventId with
      | none => some (Status.invalid "event_id must be a UUID")
      | some _ =>
          if req.seatIds.length = 0 ∨
              req.seatIds.length > maxSeatsPerOrder then
            some (Status.invalid "an order must contain 1 to 10 seats")
          else
            match checkSeatIds uuid [] req.seatIds with
            | some err => some err
            | none =>
                if req.amountCents ≤ 0 ∨
                    req.amountCents > maxAmountCents then
                  some (Status.invalid "amount_cents must be positive")
                else if !validIdempotencyKey req.idempotencyKey then
                  some
                    (Status.invalid
                      ("idempotency_key must be 1 to 64 letters, " ++
                        "digits, dashes or underscores"))
                else
                  none

theorem validateCreateOrder_eq_none_iff
    {uuid : UuidText} {req : CreateOrderRequest} :
    validateCreateOrder uuid req = none ↔
      (uuid.parse req.userId).isSome ∧ (uuid.parse req.eventId).isSome ∧
        SeatList uuid req.seatIds ∧
        (0 < req.amountCents ∧ req.amountCents ≤ maxAmountCents) ∧
        validIdempotencyKey req.idempotencyKey = true := by
  rw [seatList_iff]
  unfold validateCreateOrder maxSeatsPerOrder
  cases uuid.parse req.userId with
  | none => simp
  | some user =>
      cases uuid.parse req.eventId with
      | none => simp
      | some event =>
          simp only [Option.isSome_some, true_and]
          by_cases bounds : req.seatIds.length = 0 ∨ req.seatIds.length > 10
          · simp only [bounds, ↓reduceIte, reduceCtorEq, not_true_eq_false,
              false_and]
          · cases checkSeatIds uuid [] req.seatIds with
            | some err =>
                simp only [bounds, ↓reduceIte, reduceCtorEq, and_false,
                  false_and]
            | none =>
                by_cases amount :
                    req.amountCents ≤ 0 ∨ req.amountCents > maxAmountCents
                · have outside :
                      ¬ (0 < req.amountCents ∧
                        req.amountCents ≤ maxAmountCents) := by
                    omega
                  simp only [bounds, amount, outside, ↓reduceIte,
                    reduceCtorEq, false_and, and_false]
                · have inside :
                      0 < req.amountCents ∧
                        req.amountCents ≤ maxAmountCents := by
                    omega
                  simp only [bounds, amount, inside, ↓reduceIte, true_and,
                    not_false_eq_true]
                  cases validIdempotencyKey req.idempotencyKey <;> simp

def errSeatsUnavailable : Status :=
  Status.withReason .failedPrecondition "SEATS_UNAVAILABLE"
    "unable to reserve seats"

def errPaymentDeclined : Status :=
  Status.withReason .failedPrecondition "PAYMENT_DECLINED" "payment failed"

def errServiceUnavailable : Status :=
  Status.withReason .unavailable "SERVICE_UNAVAILABLE"
    "service temporarily unavailable, please try again"

def errKeyReused : Status :=
  Status.withReason .invalidArgument "IDEMPOTENCY_KEY_REUSED"
    "this idempotency key was already used for a different request"

def errInProgress : Status :=
  Status.withReason .aborted "REQUEST_IN_PROGRESS"
    "a request with this idempotency key is still being processed"

def reasonLabel : OrderFailureReason → String
  | .seatsUnavailable => "seats_unavailable"
  | .paymentDeclined => "payment_declined"
  | .serviceUnavailable => "service_unavailable"
  | .unspecified => "unspecified"

def failureFor : Option String → Status
  | none => errServiceUnavailable
  | some reason =>
      if reason = "seats_unavailable" then errSeatsUnavailable
      else if reason = "payment_declined" then errPaymentDeclined
      else errServiceUnavailable

/-- The two fields of `pgconn.PgError` that are read. -/
structure PgError where
  code : String
  constraintName : String
  deriving DecidableEq, Repr

/-- An error of a transaction: the text the source wraps it in and the
Postgres error inside, if there is one. -/
structure DbError where
  pgErr : Option PgError
  message : String
  deriving DecidableEq, Repr

def uniqueViolation : String := "23505"
def foreignKeyViolation : String := "23503"
def idempotencyIndex : String := "orders_idempotency_idx"

def isDuplicateKey (err : DbError) : Bool :=
  match err.pgErr with
  | none => false
  | some pgErr =>
      pgErr.code == uniqueViolation &&
        pgErr.constraintName == idempotencyIndex

def nullIfEmpty (text : String) : Option String :=
  if text = "" then none else some text

structure OrderSnapshot where
  id : UUID
  userId : String
  eventId : String
  seatIds : List String
  amountCents : Int
  deriving DecidableEq, Repr

def eventTypeName : OrderEventType → String
  | .created => "order.created"
  | .confirmed => "order.confirmed"
  | .failed => "order.failed"
  | .unspecified => "order.unknown"

/-- `buildOrderEvent` with the columns that `insertOutbox` adds. -/
def orderEventRow (uuid : UuidText) (order : OrderSnapshot)
    (type : OrderEventType) (reason : OrderFailureReason) (rowId : UUID)
    (now : Nat) : Outbox.Row OrderEvent where
  id := rowId
  key := order.id
  eventType := eventTypeName type
  payload :=
    { messageId := uuid.string rowId
      type := type
      orderId := uuid.string order.id
      userId := order.userId
      eventId := order.eventId
      seatIds := order.seatIds
      amountCents := order.amountCents
      failureReason := reason }
  published := false
  createdAt := now

def insertOutbox (uuid : UuidText) (db : Db) (order : OrderSnapshot)
    (type : OrderEventType) (reason : OrderFailureReason) (rowId : UUID)
    (now : Nat) : Except DbError Db :=
  if order.id ∉ db.orders.map OrderRow.id then
    .error
      ⟨some ⟨foreignKeyViolation, "outbox_order_id_fkey"⟩, "insert outbox row"⟩
  else
    match
      Outbox.insert db.outbox
        (orderEventRow uuid order type reason rowId now) with
    | none =>
        .error
          ⟨some ⟨uniqueViolation, "outbox_pkey"⟩, "insert outbox row"⟩
    | some rows => .ok { db with outbox := rows }

/-- The partial unique index refuses the pair: some row has this user and this
key.  A row without a key is not in the index. -/
def keyTaken (db : Db) (user : UUID) (key : Option String) : Bool :=
  key.isSome &&
    db.orders.any fun row =>
      decide (row.userId = user ∧ row.idempotencyKey = key)

/-- `createOrder`.  The primary key is checked before the later index. -/
def createOrder (uuid : UuidText) (db : Db) (order : OrderSnapshot)
    (idempotencyKey : String) (rowId : UUID) (now : Nat) : Except DbError Db :=
  match uuid.column order.userId, uuid.column order.eventId,
    uuid.columns order.seatIds with
  | some user, some event, some seats =>
      if order.id ∈ db.orders.map OrderRow.id then
        .error ⟨some ⟨uniqueViolation, "orders_pkey"⟩, "insert order"⟩
      else if keyTaken db user (nullIfEmpty idempotencyKey) then
        .error ⟨some ⟨uniqueViolation, idempotencyIndex⟩, "insert order"⟩
      else
        insertOutbox uuid
          { db with
            orders :=
              db.orders ++
                [{ id := order.id
                   userId := user
                   eventId := event
                   seatIds := seats
                   amountCents := order.amountCents
                   status := .pending
                   idempotencyKey := nullIfEmpty idempotencyKey
                   failureReason := none }] }
          order .created .unspecified rowId now
  | _, _, _ => .error ⟨none, "insert order"⟩

/-- `transition`.  The `UPDATE` has no guard on the status it replaces. -/
def transition (uuid : UuidText) (db : Db) (order : OrderSnapshot)
    (newStatus : OrderStatus) (type : OrderEventType)
    (reason : OrderFailureReason) (rowId : UUID) (now : Nat) :
    Except DbError Db :=
  let failureReason :=
    if type = .failed then some (reasonLabel reason) else none
  insertOutbox uuid
    { db with
      orders :=
        updateWhere (fun row => decide (row.id = order.id))
          (fun row =>
            { row with status := newStatus, failureReason := failureReason })
          db.orders }
    order type reason rowId now

structure StoredOrder where
  id : UUID
  eventId : String
  seatIds : List String
  amountCents : Int
  status : OrderStatus
  failureReason : Option String
  deriving DecidableEq, Repr

/-- A row as it is scanned: `uuid` and `uuid[]` columns come back in the
canonical spelling. -/
def scanOrder (uuid : UuidText) (row : OrderRow) : StoredOrder where
  id := row.id
  eventId := uuid.string row.eventId
  seatIds := row.seatIds.map uuid.string
  amountCents := row.amountCents
  status := row.status
  failureReason := row.failureReason

def findByKey
    (uuid : UuidText) (db : Db) (userId key : String) : Option StoredOrder :=
  match uuid.column userId with
  | none => none
  | some user =>
      (db.orders.find? fun row =>
          decide (row.userId = user ∧ row.idempotencyKey = some key)).map
        (scanOrder uuid)

/-- Seats are compared as sorted lists of texts. -/
def sameRequest (stored : StoredOrder) (req : CreateOrderRequest) : Bool :=
  if stored.eventId ≠ req.eventId ∨ stored.amountCents ≠ req.amountCents then
    false
  else
    stored.seatIds.insertionSort (· ≤ ·) == req.seatIds.insertionSort (· ≤ ·)

def errLookUp : Status :=
  Status.wrapped "look up the order this key belongs to"

def replay (uuid : UuidText) (db : Db) (req : CreateOrderRequest) :
    Except Status CreateOrderResponse :=
  match findByKey uuid db req.userId req.idempotencyKey with
  | none => .error errLookUp
  | some stored =>
      if !sameRequest stored req then
        .error errKeyReused
      else
        match stored.status with
        | .confirmed => .ok ⟨uuid.string stored.id, .confirmed⟩
        | .failed => .error (failureFor stored.failureReason)
        | .pending => .error errInProgress

structure GetOrderResponse where
  orderId : String
  userId : String
  eventId : String
  seatIds : List String
  amountCents : Int
  status : OrderStatus
  deriving DecidableEq, Repr

def errOrderNotFound : Status :=
  Status.error .notFound "order not found"

/-- `GetOrder`, with a database that answers. -/
def getOrder (uuid : UuidText) (db : Db) (orderId : String) :
    Except Status GetOrderResponse :=
  match uuid.parse orderId with
  | none => .error (Status.invalid "order_id must be a UUID")
  | some _ =>
      match uuid.column orderId with
      | none => .error (Status.wrapped "query order")
      | some id =>
          match db.order id with
          | none => .error errOrderNotFound
          | some row =>
              .ok
                { orderId := orderId
                  userId := uuid.string row.userId
                  eventId := uuid.string row.eventId
                  seatIds := row.seatIds.map uuid.string
                  amountCents := row.amountCents
                  status := row.status }

end TicketWave.Order
