import TicketWave.Analytics.Projection
import TicketWave.Status

/-!
# What analytics reports

`ListEventStats` of `services/analytics/internal/server`.
-/

namespace TicketWave.Analytics

open Library

structure EventStats where
  eventId : String
  ticketsSold : Int
  revenueCents : Int
  ordersConfirmed : Int
  ordersFailed : Int
  updatedAt : Nat
  deriving DecidableEq, Repr

def scanStats (uuid : UuidText) (updatedAt : UUID → Nat) (row : StatsRow) :
    EventStats where
  eventId := uuid.string row.eventId
  ticketsSold := row.counters.ticketsSold
  revenueCents := row.counters.revenueCents
  ordersConfirmed := row.counters.confirmed
  ordersFailed := row.counters.failed
  updatedAt := updatedAt row.eventId

def defaultLimit : Int := 20
def maxLimit : Int := 100

def clampLimit (n : Int) : Int :=
  if n ≤ 0 then
    defaultLimit
  else if n > maxLimit then
    maxLimit
  else
    n

/-- `ORDER BY revenue_cents DESC, event_id` -/
def StatsRow.ahead (left right : StatsRow) : Bool :=
  decide
    (left.counters.revenueCents > right.counters.revenueCents ∨
      left.counters.revenueCents = right.counters.revenueCents ∧
        left.eventId ≤ right.eventId)

def listEventStats (uuid : UuidText) (db : Db) (updatedAt : UUID → Nat)
    (limit : Int) : List EventStats :=
  ((db.eventStats.mergeSort StatsRow.ahead).take
      (clampLimit limit).toNat).map
    (scanStats uuid updatedAt)

end TicketWave.Analytics
