import TicketWave.Gateway.Respond
import TicketWave.Library.Numbers
import TicketWave.Order.Model

/-!
# Orders through the gateway

`GET /api/orders/{id}`, and the handler of `POST /api/orders` cut at its call
of order-svc.
-/

namespace TicketWave.Gateway

open Library

variable {uuid : UuidText}

def roleAdmin : String := "admin"

/-- `rank`: a role is any string, and only these three have a rank. -/
def rank (role : String) : Option Nat :=
  if role = "user" then some 1
  else if role = "organizer" then some 2
  else if role = "admin" then some 3
  else none

/-- `Role.AtLeast` -/
def atLeast (role min : String) : Bool :=
  match rank role, rank min with
  | some held, some needed => decide (needed ≤ held)
  | _, _ => false

theorem atLeast_admin_iff (role : String) :
    atLeast role roleAdmin = true ↔ role = roleAdmin := by
  have needed : rank roleAdmin = some 3 := rfl
  unfold atLeast
  rw [needed]
  unfold rank roleAdmin
  by_cases user : role = "user"
  · simp [user]
  · by_cases organizer : role = "organizer"
    · simp [organizer]
    · by_cases admin : role = "admin"
      · simp [admin]
      · simp [user, organizer, admin]

/-- The claims of a verified access token. -/
structure Claims where
  userId : String
  role : String
  deriving DecidableEq, Repr

/-- What `authenticate` makes of the `Authorization` header. -/
inductive Credentials where
  | missing
  | rejected
  | verified (claims : Claims)
  deriving DecidableEq, Repr

/-- What the rate limiter answers; `broken` when Redis cannot be reached. -/
inductive Limit where
  | allowed
  | refused
  | broken
  deriving DecidableEq, Repr

structure OrderView where
  orderId : String
  eventId : String
  seatIds : List String
  amountCents : Int
  status : String
  deriving DecidableEq, Repr

/-- Status and body of an answer, the body as what is encoded in it. -/
inductive Reply where
  | error (err : HttpError)
  | order (status : Nat) (view : OrderView)
  deriving DecidableEq, Repr

def orderStatusName : Order.OrderStatus → String
  | .pending => "pending"
  | .confirmed => "confirmed"
  | .failed => "failed"

/-- `API.fail` -/
def fail (err : Status) : Reply :=
  .error (httpError err)

/-- `getOrder` after its call. -/
def orderReply (claims : Claims) :
    Except Status Order.GetOrderResponse → Reply
  | .error err => fail err
  | .ok resp =>
      if resp.userId ≠ claims.userId ∧
          ¬ atLeast claims.role roleAdmin = true then
        .error ⟨404, "not_found", "order not found"⟩
      else
        .order 200
          { orderId := resp.orderId
            eventId := resp.eventId
            seatIds := resp.seatIds
            amountCents := resp.amountCents
            status := orderStatusName resp.status }

/-- The handler, behind `authenticate`. -/
def getOrder (uuid : UuidText) (db : Order.Db) (claims : Claims) (id : String) :
    Reply :=
  orderReply claims (Order.getOrder uuid db id)

/-- The middlewares `authenticate` and `limit` around the handler. -/
def getOrderRoute (uuid : UuidText) (db : Order.Db) (credentials : Credentials)
    (limit : Limit) (id : String) : Reply :=
  match credentials with
  | .missing => .error ⟨401, "unauthenticated", "sign in to continue"⟩
  | .rejected =>
      .error
        ⟨401, "unauthenticated", "your session is not valid, sign in again"⟩
  | .verified claims =>
      match limit with
      | .refused =>
          .error
            ⟨429, "rate_limited", "too many requests, try again shortly"⟩
      | .allowed | .broken => getOrder uuid db claims id

/-- An order of the caller, as the handler tells them. -/
def Owns (uuid : UuidText) (claims : Claims) (row : Order.OrderRow) : Prop :=
  uuid.string row.userId = claims.userId

variable {claims : Claims}

/-- For everybody but administrators, what is not one's own is missing. -/
theorem getOrder_of_not_owned {db : Order.Db} {id : String} {key : UUID}
    (notAdmin : claims.role ≠ roleAdmin) (parsed : uuid.parse id ≠ none)
    (read : uuid.column id = some key)
    (notOwned : ∀ row, db.order key = some row → ¬ Owns uuid claims row) :
    getOrder uuid db claims id = fail Order.errOrderNotFound := by
  obtain ⟨value, isValue⟩ := Option.ne_none_iff_exists'.mp parsed
  cases found : db.order key with
  | none =>
      simp only [getOrder, orderReply, Order.getOrder, isValue, read, found]
  | some row =>
      have lacksRole : ¬ atLeast claims.role roleAdmin = true := fun granted =>
        notAdmin ((atLeast_admin_iff claims.role).mp granted)
      simp only [getOrder, orderReply, Order.getOrder, isValue, read, found]
      rw [if_pos ⟨notOwned row found, lacksRole⟩]
      rfl

/-- The answer to an ID that reads as a key comes from the row under it. -/
theorem getOrder_of_same_order {left right : Order.Db} {id : String}
    (same :
      ∀ key, uuid.column id = some key → left.order key = right.order key) :
    getOrder uuid left claims id = getOrder uuid right claims id := by
  unfold getOrder Order.getOrder
  cases uuid.parse id with
  | none => rfl
  | some value =>
      cases read : uuid.column id with
      | none => rfl
      | some key => simp only [same key read]

theorem order_of_owned {left right : Order.Db} {key : UUID}
    {row : Order.OrderRow}
    (distinct : (right.orders.map Order.OrderRow.id).Nodup)
    (own : ∀ row, Owns uuid claims row → row ∈ left.orders → row ∈ right.orders)
    (found : left.order key = some row) (owned : Owns uuid claims row) :
    right.order key = some row := by
  have isKey : row.id = key := key_of_lookup found
  rw [← isKey]
  exact lookup_of_mem distinct (own row owned (mem_of_lookup found))

/-- Foreign and missing orders are indistinguishable. -/
theorem foreign_and_missing_orders_look_alike
    {left right : Order.Db} {claims : Claims} {limit : Limit} {id : String}
    (notAdmin : claims.role ≠ roleAdmin)
    (leftIds : (left.orders.map Order.OrderRow.id).Nodup)
    (rightIds : (right.orders.map Order.OrderRow.id).Nodup)
    (own :
      ∀ row, Owns uuid claims row → (row ∈ left.orders ↔ row ∈ right.orders)) :
    getOrderRoute uuid left (.verified claims) limit id =
      getOrderRoute uuid right (.verified claims) limit id := by
  have sameHandler :
      getOrder uuid left claims id = getOrder uuid right claims id := by
    by_cases parsed : uuid.parse id = none
    · unfold getOrder Order.getOrder
      rw [parsed]
    · cases read : uuid.column id with
      | none =>
          apply getOrder_of_same_order
          intro key readKey
          rw [read] at readKey
          cases readKey
      | some key =>
          by_cases owned :
              ∃ row, left.order key = some row ∧ Owns uuid claims row
          · obtain ⟨row, found, isOwn⟩ := owned
            have foundRight :=
              order_of_owned rightIds (fun row isOwn => (own row isOwn).mp)
                found isOwn
            apply getOrder_of_same_order
            intro other readOther
            cases read.symm.trans readOther
            rw [found, foundRight]
          · -- neither table has an own order under the key
            have leftForeign :
                ∀ row, left.order key = some row → ¬ Owns uuid claims row :=
              fun row found isOwn => owned ⟨row, found, isOwn⟩
            have rightForeign :
                ∀ row, right.order key = some row → ¬ Owns uuid claims row := by
              intro row found isOwn
              exact owned
                ⟨row,
                  order_of_owned leftIds
                    (fun row isOwn => (own row isOwn).mpr) found isOwn,
                  isOwn⟩
            rw [getOrder_of_not_owned notAdmin parsed read leftForeign,
              getOrder_of_not_owned notAdmin parsed read rightForeign]
  cases limit with
  | refused => rfl
  | allowed => exact sameHandler
  | broken => exact sameHandler

/-- Order 5 of user 7. -/
private def foreignOrders : Order.Db where
  orders := [⟨5, 7, 1, [2], 100, .confirmed, none, none⟩]
  outbox := []

theorem foreign_and_missing_orders_look_alike_to_a_stranger :
    getOrderRoute standardText foreignOrders
        (.verified ⟨standardString 8, "user"⟩) .allowed (standardString 5) =
      getOrderRoute standardText Order.Db.empty
        (.verified ⟨standardString 8, "user"⟩) .allowed (standardString 5) ∧
    getOrderRoute standardText foreignOrders
        (.verified ⟨standardString 8, "user"⟩) .allowed (standardString 5) =
      .error ⟨404, "not_found", "order not found"⟩ := by
  constructor
  · apply foreign_and_missing_orders_look_alike
    · decide
    · decide +kernel
    · decide +kernel
    · intro row owned
      constructor
      · intro member
        have isRow := List.mem_singleton.mp member
        rw [Owns, isRow] at owned
        have differs :
            standardText.string (7 : UUID) ≠ standardString 8 := by
          decide +kernel
        exact absurd owned differs
      · exact nofun
  · decide +kernel

def maxSeatsPerOrder : Nat := 10

structure CreateOrderBody where
  eventId : String
  seatIds : List String
  deriving DecidableEq, Repr

/-- The pattern is that of order-svc. -/
def validIdempotencyKey (key : String) : Bool :=
  Order.validIdempotencyKey key

/-- `createOrder` up to its call, which it makes with the request; `price` is
`seatPriceCents`. -/
def createOrderCall (price : Int) (claims : Claims) (body : CreateOrderBody)
    (key : String) : Except HttpError Order.CreateOrderRequest :=
  if body.seatIds.length < 1 ∨ body.seatIds.length > maxSeatsPerOrder then
    .error
      ⟨400, "invalid_argument", "an order must contain 1 to 10 seats"⟩
  else if !validIdempotencyKey key then
    .error
      ⟨400, "invalid_argument",
        "Idempotency-Key must be 1 to 64 letters, digits, dashes or " ++
          "underscores"⟩
  else
    .ok
      { userId := claims.userId
        eventId := body.eventId
        seatIds := body.seatIds
        amountCents := int64 (body.seatIds.length * price)
        idempotencyKey := key }

/-- `createOrder` after its call; the view has an ID and a status only. -/
def createOrderReply :
    Except Status Order.CreateOrderResponse → Reply
  | .error err => fail err
  | .ok resp =>
      .order 201
        { orderId := resp.orderId
          eventId := ""
          seatIds := []
          amountCents := 0
          status := orderStatusName resp.status }

theorem createOrderCall_ok {price : Int} {body : CreateOrderBody} {key : String}
    {req : Order.CreateOrderRequest}
    (called : createOrderCall price claims body key = .ok req) :
    req.userId = claims.userId ∧ req.idempotencyKey = key := by
  unfold createOrderCall at called
  split at called
  · cases called
  · split at called
    · cases called
    · cases called
      exact ⟨rfl, rfl⟩

end TicketWave.Gateway
