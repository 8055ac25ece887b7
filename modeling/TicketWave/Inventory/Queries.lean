import TicketWave.Inventory.Transactions
import TicketWave.Library.Sorting

/-!
# What inventory reports

`collation` stands for the order in which Postgres sorts labels.
-/

namespace TicketWave.Inventory

open Library

variable {uuid : UuidText} {collation : String → String → Bool} {db : Db}

structure Seat where
  id : String
  eventId : String
  label : String
  status : SeatStatus
  deriving DecidableEq, Repr

def listSeats (uuid : UuidText) (collation : String → String → Bool) (db : Db)
    (eventId : String) : Except Status (List Seat) :=
  match validateEventID uuid eventId with
  | some err => .error err
  | none =>
      match uuid.column eventId with
      | none => .error (Status.wrapped "rows error")
      | some event =>
          let rows :=
            (db.seats.filter fun row => decide (row.eventId = event)).mergeSort
              fun left right => collation left.label right.label
          .ok
            (rows.map fun row =>
              { id := uuid.string row.id
                eventId := eventId
                label := row.label
                status := row.status })

structure Event where
  id : String
  name : String
  totalSeats : Int
  availableSeats : Int
  createdAt : Nat
  deriving DecidableEq, Repr

/-- The conversion `int32(n)` of a count. -/
def int32 (count : Nat) : Int :=
  Int.bmod count (2 ^ 32)

/-- `selectEvents` and `scanEvent` for one row of `events`. -/
def scanEvent (uuid : UuidText) (db : Db) (row : EventRow) : Event :=
  let seats := db.seats.filter fun seat => decide (seat.eventId = row.id)
  { id := uuid.string row.id
    name := row.name
    totalSeats := int32 seats.length
    availableSeats :=
      int32
        (seats.filter fun seat => decide (seat.status = .available)).length
    createdAt := row.createdAt }

def getEvent (uuid : UuidText) (db : Db) (eventId : String) :
    Except Status Event :=
  match uuid.parse eventId with
  | none => .error (Status.invalid "event_id must be a UUID")
  | some id =>
      match lookup EventRow.id db.events id with
      | none => .error (Status.error .notFound "event not found")
      | some row => .ok (scanEvent uuid db row)

def defaultEventLimit : Int := 50
def maxEventLimit : Int := 200

def clampEventLimit (n : Int) : Int :=
  if n ≤ 0 then
    defaultEventLimit
  else if n > maxEventLimit then
    maxEventLimit
  else
    n

/-- `ORDER BY e.created_at DESC, e.id` -/
def EventRow.newer (left right : EventRow) : Bool :=
  decide
    (left.createdAt > right.createdAt ∨
      left.createdAt = right.createdAt ∧ left.id ≤ right.id)

def listEvents (uuid : UuidText) (db : Db) (limit : Int) : List Event :=
  ((db.events.mergeSort EventRow.newer).take (clampEventLimit limit).toNat).map
    (scanEvent uuid db)

theorem mem_listSeats {eventId : String} {event : UUID} {row : SeatRow}
    (accepted : validateEventID uuid eventId = none)
    (read : uuid.column eventId = some event) (stored : row ∈ db.seats)
    (isEvent : row.eventId = event) :
    ∃ seats, listSeats uuid collation db eventId = .ok seats ∧
      ({ id := uuid.string row.id
         eventId := eventId
         label := row.label
         status := row.status } : Seat) ∈ seats := by
  refine ⟨_, by rw [listSeats, accepted, read], ?_⟩
  apply List.mem_map_of_mem (a := row)
  rw [List.mem_mergeSort]
  exact List.mem_filter.mpr ⟨stored, decide_eq_true isEvent⟩

theorem getEvent_of_mem
    {text : String} {event : UUID} (parsed : uuid.parse text = some event)
    (known : event ∈ db.events.map EventRow.id) :
    ∃ row, row.id = event ∧
      getEvent uuid db text = .ok (scanEvent uuid db row) := by
  rw [getEvent, parsed]
  cases found : lookup EventRow.id db.events event with
  | none =>
      obtain ⟨row, stored, isEvent⟩ := List.mem_map.mp known
      have missing := List.find?_eq_none.mp found row stored
      simp [isEvent] at missing
  | some row => exact ⟨row, key_of_lookup found, by simp only [found]⟩

theorem mem_listEvents
    {limit : Int} {reply : Event} (member : reply ∈ listEvents uuid db limit) :
    ∃ row ∈ db.events, reply = scanEvent uuid db row := by
  obtain ⟨row, taken, rfl⟩ := List.mem_map.mp member
  exact ⟨row, List.mem_mergeSort.mp (List.mem_of_mem_take taken), rfl⟩

/-- The place of an event in the order of `ListEvents`, counted from one. -/
def Db.rank (db : Db) (event : EventRow) : Nat :=
  db.events.countP fun other => other.newer event

theorem EventRow.newer_iff {left right : EventRow} :
    left.newer right = true ↔
      left.createdAt > right.createdAt ∨
        left.createdAt = right.createdAt ∧ left.id ≤ right.id :=
  decide_eq_true_iff

theorem EventRow.newer_trans (first second third : EventRow)
    (firstNewer : first.newer second = true)
    (secondNewer : second.newer third = true) : first.newer third = true := by
  rw [EventRow.newer_iff] at firstNewer secondNewer ⊢
  rcases firstNewer with later | ⟨sameTime, smaller⟩
  · refine Or.inl ?_
    rcases secondNewer with alsoLater | ⟨alsoSame, _⟩
    · omega
    · omega
  · rcases secondNewer with later | ⟨alsoSame, alsoSmaller⟩
    · exact Or.inl (by omega)
    · exact Or.inr
        ⟨sameTime.trans alsoSame, BitVec.le_trans smaller alsoSmaller⟩

theorem EventRow.newer_total (left right : EventRow) :
    (left.newer right || right.newer left) = true := by
  rw [Bool.or_eq_true, EventRow.newer_iff, EventRow.newer_iff]
  rcases Nat.lt_trichotomy left.createdAt right.createdAt with
    older | same | newer
  · exact Or.inr (Or.inl older)
  · rcases BitVec.le_total left.id right.id with smaller | greater
    · exact Or.inl (Or.inr ⟨same, smaller⟩)
    · exact Or.inr (Or.inr ⟨same.symm, greater⟩)
  · exact Or.inl (Or.inl newer)

theorem EventRow.id_eq_of_newer {left right : EventRow}
    (newer : left.newer right = true) (older : right.newer left = true) :
    left.id = right.id := by
  rw [EventRow.newer_iff] at newer older
  rcases newer with later | ⟨_, smaller⟩
  · rcases older with earlier | ⟨same, _⟩
    · omega
    · omega
  · rcases older with later | ⟨_, greater⟩
    · omega
    · exact BitVec.le_antisymm smaller greater

/-- The events that `ListEvents` reports are those whose rank is within the
limit. -/
theorem mem_listed_iff (distinct : (db.events.map EventRow.id).Nodup)
    {event : EventRow} (stored : event ∈ db.events) (count : Nat) :
    event ∈ (db.events.mergeSort EventRow.newer).take count ↔
      db.rank event ≤ count := by
  apply mem_take_mergeSort_iff EventRow.newer_trans EventRow.newer_total
    distinct.of_map
  · intro other isOther newer older
    exact
      row_unique distinct isOther stored (EventRow.id_eq_of_newer older newer)
  · exact stored

end TicketWave.Inventory
