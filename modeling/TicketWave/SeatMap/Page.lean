import TicketWave.Inventory.Queries
import TicketWave.Inventory.SeatRows
import TicketWave.Realtime.Feed

/-!
# The seat map of one page

`useSeats` and `useSeatStream`.  The stream brings the seat events of the event
in the order of their commits; its place is a position in the outbox.  What the
transport does to JSON is left out.
-/

namespace TicketWave.SeatMap

open Library TicketWave.Inventory

/-- `seatView` of the gateway, which is `Seat` of the web app. -/
structure SeatView where
  id : String
  label : String
  status : String
  deriving DecidableEq, Repr

def seatStatusName : SeatStatus → String
  | .available => "available"
  | .held => "held"
  | .sold => "sold"

theorem seatStateName_state (status : SeatStatus) :
    seatStateName status.state = seatStatusName status := by
  cases status <;> rfl

/-- The handler `listSeats` of the gateway. -/
def listSeats (uuid : UuidText) (collation : String → String → Bool) (db : Db)
    (eventId : String) : Except Status (List SeatView) :=
  (Inventory.listSeats uuid collation db eventId).map fun seats =>
    seats.map fun seat =>
      { id := seat.id
        label := seat.label
        status := seatStatusName seat.status }

/-- `ListSeats` accepts the ID, and so does Postgres. -/
def Readable (uuid : UuidText) (eventId : String) : Prop :=
  validateEventID uuid eventId = none ∧
    ∃ event, uuid.column eventId = some event

variable {collation : String → String → Bool}

theorem readable_iff_ok {uuid : UuidText} {db : Db} {eventId : String} :
    Readable uuid eventId ↔
      ∃ seats, listSeats uuid collation db eventId = .ok seats := by
  unfold Readable listSeats Inventory.listSeats
  cases accepted : validateEventID uuid eventId with
  | some err => simp [Except.map]
  | none =>
      cases read : uuid.column eventId with
      | none => simp [Except.map]
      | some event => simp [Except.map]

theorem mem_of_listSeats {uuid : UuidText} {db : Db} {eventId : String}
    {seats : List SeatView} {seat : SeatView}
    (listed : listSeats uuid collation db eventId = .ok seats)
    (member : seat ∈ seats) :
    ∃ row ∈ db.seats,
      uuid.column eventId = some row.eventId ∧
        seat =
          { id := uuid.string row.id
            label := row.label
            status := seatStatusName row.status } := by
  unfold listSeats Inventory.listSeats at listed
  split at listed
  · cases listed
  · split at listed
    · cases listed
    · rename_i event read
      cases listed
      obtain ⟨reported, isReported, rfl⟩ := List.mem_map.mp member
      obtain ⟨row, inRows, rfl⟩ := List.mem_map.mp isReported
      obtain ⟨stored, isConcert⟩ :=
        List.mem_filter.mp (List.mem_mergeSort.mp inRows)
      refine ⟨row, stored, ?_, rfl⟩
      rw [read, of_decide_eq_true isConcert]

def states : List String := ["available", "held", "sold"]

/-- `parseUpdate`, from the parsed JSON on. -/
def parseUpdate (update : Realtime.Update) : Option Realtime.Update :=
  if update.state ∈ states then some update else none

def applyUpdate (seats : Option (List SeatView)) (update : Realtime.Update) :
    Option (List SeatView) :=
  seats.map fun seats =>
    seats.map fun seat =>
      if seat.id ∈ update.seatIds ∧ seat.status ≠ update.state then
        { seat with status := update.state }
      else
        seat

inductive Fetch where
  | asked
  /-- the server has read the list, when the outbox had `taken` rows -/
  | answered (taken : Nat) (reply : Except Status (List SeatView))

inductive Stream where
  | closed
  /-- the server has subscribed, `onopen` is to come -/
  | subscribed (position : Nat)
  | opened (position : Nat)
  deriving DecidableEq, Repr

/-- How many rows the outbox had when the list was read. -/
def Fetch.taken : Fetch → Option Nat
  | .asked => none
  | .answered taken _ => some taken

/-- How far an open stream has come. -/
def Stream.position : Stream → Option Nat
  | .closed => none
  | .subscribed _ => none
  | .opened position => some position

structure Page (uuid : UuidText) where
  inventory : Inventory.State uuid
  eventId : String
  cache : Option (List SeatView)
  fetches : Registry Fetch
  stream : Stream

def Page.new (uuid : UuidText) (eventId : String) : Page uuid where
  inventory := Inventory.State.empty uuid
  eventId := eventId
  cache := none
  fetches := Registry.empty
  stream := .closed

variable {uuid : UuidText}

def Page.outbox (page : Page uuid) : List (Outbox.Row SeatEvent) :=
  page.inventory.db.outbox

/-- The row is about the event of the page. -/
def Page.shows (page : Page uuid) (row : Outbox.Row SeatEvent) : Bool :=
  decide (uuid.column page.eventId = some row.key)

/-- The listener for `seats`, called with what the feed makes of the row. -/
def receive (cache : Option (List SeatView)) (row : Outbox.Row SeatEvent) :
    Option (List SeatView) :=
  match (Realtime.handler row.payload).bind fun sent => parseUpdate sent.2 with
  | none => cache
  | some update => applyUpdate cache update

inductive Label where
  | service (label : Inventory.Label)
  /-- on mount, or by the poll -/
  | fetch
  | read (fetch : Nat)
  | arrive (fetch : Nat)
  | subscribe (position : Nat)
  /-- `onopen` -/
  | opens
  | deliver
  | disconnect

def Page.step (collation : String → String → Bool) (page : Page uuid) :
    Label → Option (Page uuid)
  | .service label =>
      (Inventory.step page.inventory label).map fun inventory =>
        { page with inventory := inventory }
  | .fetch => some { page with fetches := page.fetches.launch .asked }
  | .read id =>
      match page.fetches.get id with
      | some .asked =>
          some
            { page with
              fetches :=
                page.fetches.put id
                  (.answered page.outbox.length
                    (listSeats uuid collation page.inventory.db page.eventId)) }
      | _ => none
  | .arrive id =>
      match page.fetches.get id with
      | some (.answered _ reply) =>
          some
            { page with
              fetches := page.fetches.finish id
              cache :=
                match reply with
                | .ok seats => some seats
                | .error _ => page.cache }
      | _ => none
  | .subscribe position =>
      match page.stream with
      | .closed =>
          if position ≤ page.outbox.length then
            some { page with stream := .subscribed position }
          else
            none
      | _ => none
  | .opens =>
      match page.stream with
      | .subscribed position =>
          some
            { page with
              stream := .opened position
              fetches := page.fetches.launch .asked }
      | _ => none
  | .deliver =>
      match page.stream with
      | .opened position =>
          match page.outbox[position]? with
          | none => none
          | some row =>
              some
                { page with
                  stream := .opened (position + 1)
                  cache :=
                    if page.shows row then receive page.cache row
                    else page.cache }
      | _ => none
  | .disconnect => some { page with stream := .closed }

inductive Transition (collation : String → String → Bool) (page : Page uuid) :
    Label → Page uuid → Prop
  | served
      {label : Inventory.Label} {inventory : Inventory.State uuid}
      (stepped : Inventory.step page.inventory label = some inventory) :
      Transition collation page (.service label)
        { page with inventory := inventory }
  | fetched :
      Transition collation page .fetch
        { page with fetches := page.fetches.launch .asked }
  | read
      {id : Nat} (asked : page.fetches.get id = some .asked) :
      Transition collation page (.read id)
        { page with
          fetches :=
            page.fetches.put id
              (.answered page.outbox.length
                (listSeats uuid collation page.inventory.db page.eventId)) }
  | replaced
      {id taken : Nat} {seats : List SeatView}
      (answered : page.fetches.get id = some (.answered taken (.ok seats))) :
      Transition collation page (.arrive id)
        { page with
          fetches := page.fetches.finish id
          cache := some seats }
  | failed
      {id taken : Nat} {err : Status}
      (answered : page.fetches.get id = some (.answered taken (.error err))) :
      Transition collation page (.arrive id)
        { page with fetches := page.fetches.finish id }
  | subscribed
      {position : Nat} (within : position ≤ page.outbox.length) :
      Transition collation page (.subscribe position)
        { page with stream := .subscribed position }
  | opened
      {position : Nat} (subscribed : page.stream = .subscribed position) :
      Transition collation page .opens
        { page with
          stream := .opened position
          fetches := page.fetches.launch .asked }
  | delivered
      {position : Nat} {row : Outbox.Row SeatEvent}
      (opened : page.stream = .opened position)
      (next : page.outbox[position]? = some row) :
      Transition collation page .deliver
        { page with
          stream := .opened (position + 1)
          cache :=
            if page.shows row then receive page.cache row else page.cache }
  | disconnected :
      Transition collation page .disconnect { page with stream := .closed }

theorem transition_of_step {page next : Page uuid} {label : Label}
    (stepped : page.step collation label = some next) :
    Transition collation page label next := by
  cases label with
  | service label =>
      obtain ⟨inventory, served, rfl⟩ := Option.map_eq_some_iff.mp stepped
      exact .served served
  | fetch =>
      cases stepped
      exact .fetched
  | read id =>
      simp only [Page.step] at stepped
      split at stepped
      · rename_i asked
        cases stepped
        exact .read asked
      · cases stepped
  | arrive id =>
      simp only [Page.step] at stepped
      split at stepped
      · rename_i taken reply answered
        cases stepped
        cases reply with
        | ok seats => exact .replaced answered
        | error err => exact .failed answered
      · cases stepped
  | subscribe position =>
      simp only [Page.step] at stepped
      split at stepped
      · split at stepped
        · rename_i within
          cases stepped
          exact .subscribed within
        · cases stepped
      · cases stepped
  | opens =>
      simp only [Page.step] at stepped
      split at stepped
      · rename_i position subscribed
        cases stepped
        exact .opened subscribed
      · cases stepped
  | deliver =>
      simp only [Page.step] at stepped
      split at stepped
      · rename_i position opened
        split at stepped
        · cases stepped
        · rename_i row next
          cases stepped
          exact .delivered opened next
      · cases stepped
  | disconnect =>
      cases stepped
      exact .disconnected

end TicketWave.SeatMap
