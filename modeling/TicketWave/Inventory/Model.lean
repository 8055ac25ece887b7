import TicketWave.Library.Table
import TicketWave.Outbox.Table
import TicketWave.Status
import Mathlib.Data.List.Dedup

/-!
# Inventory: tables, requests and transactions

The transactions of `services/inventory/internal/server`, each a function of
the database it meets: row locks make its statements meet the same rows.
Nothing is assumed of the UUIDs that are drawn.
-/

namespace TicketWave.Inventory

open Library

inductive SeatStatus where
  | available
  | held
  | sold
  deriving DecidableEq, Repr

structure EventRow where
  id : UUID
  name : String
  createdAt : Nat
  deriving DecidableEq, Repr

structure SeatRow where
  id : UUID
  eventId : UUID
  label : String
  status : SeatStatus
  heldBy : Option UUID
  deriving DecidableEq, Repr

/-- The enum `SeatState` of the seat-events topic. -/
inductive SeatState where
  | unspecified
  | available
  | held
  | sold
  deriving DecidableEq, Repr

structure SeatEvent where
  messageId : String
  eventId : String
  seatIds : List String
  state : SeatState
  deriving DecidableEq, Repr

structure Db where
  events : List EventRow
  seats : List SeatRow
  outbox : List (Outbox.Row SeatEvent)
  deriving DecidableEq, Repr

def Db.empty : Db :=
  ⟨[], [], []⟩

def Db.seat (db : Db) (id : UUID) : Option SeatRow :=
  lookup SeatRow.id db.seats id

def Db.status (db : Db) (id : UUID) : Option SeatStatus :=
  (db.seat id).map SeatRow.status

structure CreateEventRequest where
  name : String
  seatCount : Int
  deriving DecidableEq, Repr

/-- The three seat requests have the same fields. -/
structure SeatRequest where
  eventId : String
  seatIds : List String
  orderId : String
  deriving DecidableEq, Repr

def maxEventNameLen : Nat := 100
def maxSeatsPerEvent : Int := 500
def maxSeatsPerOrder : Nat := 10

/-- `unicode.IsSpace` -/
def isSpace (char : Char) : Bool :=
  char.toNat ∈
    [0x09, 0x0A, 0x0B, 0x0C, 0x0D, 0x20, 0x85, 0xA0, 0x1680,
      0x2000, 0x2001, 0x2002, 0x2003, 0x2004, 0x2005, 0x2006, 0x2007,
      0x2008, 0x2009, 0x200A, 0x2028, 0x2029, 0x202F, 0x205F, 0x3000]

/-- `strings.TrimSpace` -/
def trimSpace (text : String) : String :=
  String.ofList
    (((text.toList.dropWhile isSpace).reverse.dropWhile isSpace).reverse)

def validateCreateEvent (req : CreateEventRequest) : Option Status :=
  let name := trimSpace req.name
  if name = "" ∨ name.length > maxEventNameLen then
    some (Status.invalid "name must be 1 to 100 characters")
  else if req.seatCount < 1 ∨ req.seatCount > maxSeatsPerEvent then
    some (Status.invalid "seat_count must be between 1 and 500")
  else
    none

def validateEventID (uuid : UuidText) (id : String) : Option Status :=
  match uuid.parse id with
  | none => some (Status.invalid "event_id must be a UUID")
  | some _ => none

def validateSeatRequest (uuid : UuidText) (req : SeatRequest) : Option Status :=
  match validateEventID uuid req.eventId with
  | some err => some err
  | none =>
      match uuid.parse req.orderId with
      | none => some (Status.invalid "order_id must be a UUID")
      | some _ =>
          if req.seatIds.length = 0 ∨
              req.seatIds.length > maxSeatsPerOrder then
            some (Status.invalid "seat_ids must contain 1 to 10 seats")
          else
            checkSeatIds uuid [] req.seatIds

def seatStateName : SeatState → String
  | .available => "available"
  | .held => "held"
  | .sold => "sold"
  | .unspecified => "unknown"

def seatEventRow (uuid : UuidText) (event : UUID) (eventId : String)
    (seatIds : List String) (state : SeatState) (rowId : UUID) (start : Nat) :
    Outbox.Row SeatEvent where
  id := rowId
  key := event
  eventType := "seat." ++ seatStateName state
  payload :=
    { messageId := uuid.string rowId
      eventId := eventId
      seatIds := seatIds
      state := state }
  published := false
  createdAt := start

/-- `emitSeatEvent`, inside a transaction begun at `start`.  The foreign key
of `outbox.event_id` and the primary key of the row can refuse it. -/
def emitSeatEvent
    (uuid : UuidText) (db : Db) (eventId : String) (seatIds : List String)
    (state : SeatState) (rowId : UUID) (start : Nat) : Except Status Db :=
  if seatIds.length = 0 then
    .ok db
  else
    match uuid.column eventId with
    | none => .error (Status.wrapped "insert seat event into outbox")
    | some event =>
        if event ∉ db.events.map EventRow.id then
          .error (Status.wrapped "insert seat event into outbox")
        else
          match
            Outbox.insert db.outbox
              (seatEventRow uuid event eventId seatIds state rowId start) with
          | none => .error (Status.wrapped "insert seat event into outbox")
          | some rows => .ok { db with outbox := rows }

/-- The rows `INSERT INTO seats` writes for labels `Seat from` onwards. -/
def newSeats (eventId : UUID) : Nat → List UUID → List SeatRow
  | _, [] => []
  | number, id :: rest =>
      { id := id
        eventId := eventId
        label := "Seat " ++ toString number
        status := .available
        heldBy := none } :: newSeats eventId (number + 1) rest

/-- `CreateEvent`.  `seatIds` are the values drawn in the loop, one for each
`i` from 1 to `seat_count`. -/
def createEvent (db : Db) (req : CreateEventRequest) (eventId : UUID)
    (seatIds : List UUID) (start : Nat) : Except Status Db :=
  match validateCreateEvent req with
  | some err => .error err
  | none =>
      if eventId ∈ db.events.map EventRow.id then
        .error (Status.wrapped "could not insert event")
      else if ¬ (db.seats.map SeatRow.id ++ seatIds).Nodup then
        .error (Status.wrapped "execute seat batch")
      else
        .ok
          { db with
            events :=
              db.events ++ [⟨eventId, trimSpace req.name, start⟩]
            seats := db.seats ++ newSeats eventId 1 seatIds }

inductive RedisCommand where
  | set (key value : String) (ttl : Nat)
  | del (key : String)
  deriving DecidableEq, Repr

/-- Five minutes, in milliseconds. -/
def holdTTL : Nat := 300000

def holdKey (seatId : String) : String :=
  "hold:seat:" ++ seatId

/-- What a committed seat transaction leaves: the database, the Redis
commands its call still has to run, and the order and seats it was about. -/
structure Committed where
  db : Db
  commands : List RedisCommand
  order : UUID
  seats : List UUID

def hold (order : UUID) (row : SeatRow) : SeatRow :=
  { row with status := .held, heldBy := some order }

/-- The guard of the `SELECT … FOR UPDATE` in `reserveSeats`. -/
def selectable (seatIds : List UUID) (eventId : UUID) (row : SeatRow) : Bool :=
  decide (row.id ∈ seatIds ∧ row.eventId = eventId)

/-- The transaction of `ReserveSeats`.  The order ID is read only by the
`UPDATE`, after the locked rows have been checked. -/
def reserveSeats (uuid : UuidText) (db : Db) (req : SeatRequest) (rowId : UUID)
    (start : Nat) : Except Status Committed :=
  match uuid.columns req.seatIds, uuid.column req.eventId with
  | some seatIds, some eventId =>
      -- without ORDER BY the rows come as the table gives them
      let seats := db.seats.filter (selectable seatIds eventId)
      if seats.length ≠ req.seatIds.length then
        .error
          (Status.error .failedPrecondition "one or more seats do not exist")
      else if seats.any fun row => decide (row.status ≠ .available) then
        .error
          (Status.error .failedPrecondition
            "one or more seats are not available")
      else
        match uuid.column req.orderId with
        | none => .error (Status.wrapped "update seats to held")
        | some order =>
            -- the UPDATE is keyed by the seat IDs alone
            let updated :=
              updateWhere (fun row => decide (row.id ∈ seatIds)) (hold order)
                db.seats
            match
              emitSeatEvent uuid { db with seats := updated } req.eventId
                req.seatIds .held rowId start with
            | .error err => .error err
            | .ok committed =>
                .ok
                  { db := committed
                    commands :=
                      seats.map fun row =>
                        .set (holdKey (uuid.string row.id)) req.orderId holdTTL
                    order := order
                    seats := seatIds }
  | _, _ => .error (Status.wrapped "could not iterate row")

def unhold (newStatus : SeatStatus) (row : SeatRow) : SeatRow :=
  { row with status := newStatus, heldBy := none }

/-- The guard of the `UPDATE` in `moveHeldSeats`. -/
def movable
    (seatIds : List UUID) (eventId order : UUID) (row : SeatRow) : Bool :=
  decide
    (row.id ∈ seatIds ∧ row.eventId = eventId ∧
      row.heldBy = some order ∧ row.status = .held)

def SeatStatus.text : SeatStatus → String
  | .available => "AVAILABLE"
  | .held => "HELD"
  | .sold => "SOLD"

def moveHeldSeats (uuid : UuidText) (db : Db) (req : SeatRequest)
    (newStatus : SeatStatus) (state : SeatState) (failure : String)
    (rowId : UUID) (start : Nat) : Except Status Committed :=
  match uuid.columns req.seatIds, uuid.column req.eventId,
    uuid.column req.orderId with
  | some seatIds, some eventId, some order =>
      if (db.seats.filter (movable seatIds eventId order)).length ≠
          req.seatIds.length then
        .error (Status.error .failedPrecondition failure)
      else
        match
          emitSeatEvent uuid
            { db with
              seats :=
                updateWhere (movable seatIds eventId order)
                  (unhold newStatus) db.seats }
            req.eventId req.seatIds state rowId start with
        | .error err => .error err
        | .ok committed =>
            .ok
              { db := committed
                commands := []
                order := order
                seats := seatIds }
  | _, _, _ => .error (Status.wrapped ("update seats to " ++ newStatus.text))

-- The hold keys are deleted under the identifiers as the request spells
-- them, while `reserveSeats` sets them under the canonical spelling.
def deleteHolds (req : SeatRequest) (done : Committed) : Committed :=
  { done with commands := req.seatIds.map fun id => .del (holdKey id) }

def confirmSeats (uuid : UuidText) (db : Db) (req : SeatRequest) (rowId : UUID)
    (start : Nat) : Except Status Committed :=
  (moveHeldSeats uuid db req .sold .sold
    "one or more seats could not be confirmed" rowId start).map
      (deleteHolds req)

def releaseSeats (uuid : UuidText) (db : Db) (req : SeatRequest) (rowId : UUID)
    (start : Nat) : Except Status Committed :=
  (moveHeldSeats uuid db req .available .available
    "one or more seats could not be released" rowId start).map
      (deleteHolds req)

inductive Method where
  | reserveSeats
  | confirmSeats
  | releaseSeats
  deriving DecidableEq, Repr

def transact (uuid : UuidText) (method : Method) (db : Db) (req : SeatRequest)
    (rowId : UUID) (start : Nat) : Except Status Committed :=
  match method with
  | .reserveSeats => reserveSeats uuid db req rowId start
  | .confirmSeats => confirmSeats uuid db req rowId start
  | .releaseSeats => releaseSeats uuid db req rowId start

/-- The guard of the sweep's `UPDATE`: nothing but the status is checked
again. -/
def sweepable (expired : List UUID) (row : SeatRow) : Bool :=
  decide (row.id ∈ expired ∧ row.status = .held)

/-- The map `byEvent`.  Go iterates a map in no fixed order; here the events
come in the order of their last released row. -/
def byEvent (released : List SeatRow) : List (UUID × List UUID) :=
  (released.map SeatRow.eventId).dedup.map fun event =>
    (event,
      (released.filter fun row => decide (row.eventId = event)).map
        SeatRow.id)

/-- One `emitSeatEvent` for each entry of `byEvent`. -/
def emitFreed (uuid : UuidText) (newId : UUID → UUID) (start : Nat) :
    List (UUID × List UUID) → Db → Except Status Db
  | [], db => .ok db
  | (event, seatIds) :: rest, db =>
      match
        emitSeatEvent uuid db (uuid.string event)
          (seatIds.map uuid.string) .available (newId event) start with
      | .error err => .error err
      | .ok next => emitFreed uuid newId start rest next

/-- The transaction of `sweepExpiredHolds`. -/
def sweepHolds (uuid : UuidText) (db : Db) (expired : List UUID)
    (newId : UUID → UUID) (start : Nat) : Except Status Db :=
  emitFreed uuid newId start
    (byEvent (db.seats.filter (sweepable expired)))
    { db with
      seats := updateWhere (sweepable expired) (unhold .available) db.seats }

end TicketWave.Inventory
