import TicketWave.Inventory.Model

/-!
# What each inventory transaction does

Later modules use these specifications and never unfold a transaction.
-/

namespace TicketWave.Inventory

open Library

variable {uuid : UuidText} {db : Db} {req : SeatRequest}
  {rowId : UUID} {start : Nat}

/-- What the tables promise between transactions. -/
structure WellFormed (db : Db) : Prop where
  seatIds : (db.seats.map SeatRow.id).Nodup
  outboxIds : (db.outbox.map Outbox.Row.id).Nodup
  holder : ∀ row ∈ db.seats, row.heldBy.isSome ↔ row.status = .held

theorem wellFormed_empty : WellFormed Db.empty where
  seatIds := List.nodup_nil
  outboxIds := List.nodup_nil
  holder := nofun

/-- The seats an outbox row lists, as values. -/
def listed (uuid : UuidText) (row : Outbox.Row SeatEvent) : List UUID :=
  row.payload.seatIds.filterMap uuid.column

variable {ids expired seatIds : List UUID} {next : Db} {method : Method}
  {order eventId : UUID} {row : SeatRow} {done : Committed}
  {newId : UUID → UUID} {event : CreateEventRequest}

theorem filterMap_of_columns {texts : List String}
    (read : uuid.columns texts = some ids) :
    texts.filterMap uuid.column = ids := by
  induction texts generalizing ids with
  | nil =>
      cases read
      rfl
  | cons text rest ih =>
      obtain ⟨id, others, readHead, readRest, rfl⟩ :=
        uuid.columns_cons_eq_some_iff.mp read
      rw [List.filterMap_cons_some readHead, ih readRest]

theorem filterMap_column_string (ids : List UUID) :
    (ids.map uuid.string).filterMap uuid.column = ids := by
  induction ids with
  | nil => rfl
  | cons id rest ih =>
      rw [List.map_cons,
        List.filterMap_cons_some (uuid.column_string id),
        ih]

theorem emitSeatEvent_eq_ok_iff {eventId : String} {seatIds : List String}
    {state : SeatState} (nonempty : seatIds ≠ []) :
    emitSeatEvent uuid db eventId seatIds state rowId start = .ok next ↔
      ∃ event,
        uuid.column eventId = some event ∧
          event ∈ db.events.map EventRow.id ∧
          rowId ∉ db.outbox.map Outbox.Row.id ∧
          next =
            { db with
              outbox :=
                db.outbox ++
                  [seatEventRow uuid event eventId seatIds state rowId
                    start] } := by
  have positive : seatIds.length ≠ 0 := by
    intro zero
    exact nonempty (List.length_eq_zero_iff.mp zero)
  unfold emitSeatEvent
  rw [if_neg positive]
  cases read : uuid.column eventId with
  | none => simp
  | some event =>
      simp only [Option.some.injEq, exists_eq_left']
      by_cases known : event ∈ db.events.map EventRow.id
      · by_cases taken : rowId ∈ db.outbox.map Outbox.Row.id
        · simp only [Outbox.insert, seatEventRow, known, taken, not_true,
            if_true, if_false, false_and, and_false, reduceCtorEq]
        · simp only [Outbox.insert, seatEventRow, known, taken, not_true,
            not_false_iff, if_false, true_and, Except.ok.injEq]
          exact eq_comm
      · simp only [known, not_false_iff, if_true, false_and, reduceCtorEq]

/-- What a method requires of the row of every seat it names. -/
def Method.source (order : UUID) : Method → SeatRow → Prop
  | .reserveSeats, row => row.status = .available
  | .confirmSeats, row => row.status = .held ∧ row.heldBy = some order
  | .releaseSeats, row => row.status = .held ∧ row.heldBy = some order

def Method.change (order : UUID) : Method → SeatRow → SeatRow
  | .reserveSeats => hold order
  | .confirmSeats => unhold .sold
  | .releaseSeats => unhold .available

def Method.origin : Method → SeatStatus
  | .reserveSeats => .available
  | .confirmSeats => .held
  | .releaseSeats => .held

def Method.target : Method → SeatStatus
  | .reserveSeats => .held
  | .confirmSeats => .sold
  | .releaseSeats => .available

def SeatStatus.state : SeatStatus → SeatState
  | .available => .available
  | .held => .held
  | .sold => .sold

@[simp]
theorem unhold_id (newStatus : SeatStatus) (row : SeatRow) :
    (unhold newStatus row).id = row.id :=
  rfl

theorem Method.origin_of_source (source : method.source order row) :
    row.status = method.origin := by
  cases method with
  | reserveSeats => exact source
  | confirmSeats => exact source.1
  | releaseSeats => exact source.1

@[simp]
theorem Method.change_id (method : Method) (order : UUID) (row : SeatRow) :
    (method.change order row).id = row.id := by
  cases method <;> rfl

@[simp]
theorem Method.change_eventId (method : Method) (order : UUID) (row : SeatRow) :
    (method.change order row).eventId = row.eventId := by
  cases method <;> rfl

@[simp]
theorem Method.change_label (method : Method) (order : UUID) (row : SeatRow) :
    (method.change order row).label = row.label := by
  cases method <;> rfl

@[simp]
theorem Method.change_status (method : Method) (order : UUID) (row : SeatRow) :
    (method.change order row).status = method.target := by
  cases method <;> rfl

theorem Method.change_holder (method : Method) (order : UUID) (row : SeatRow) :
    (method.change order row).heldBy.isSome ↔
      (method.change order row).status = .held := by
  cases method <;> simp [Method.change, hold, unhold]

/-- The Redis commands a committed call has still to run. -/
def Method.commands (uuid : UuidText) (req : SeatRequest) (seats : List UUID) :
    Method → List RedisCommand
  | .reserveSeats =>
      seats.map fun id =>
        .set (holdKey (uuid.string id)) req.orderId holdTTL
  | .confirmSeats => req.seatIds.map fun id => .del (holdKey id)
  | .releaseSeats => req.seatIds.map fun id => .del (holdKey id)

/-- The seat is one of the event's, in the state the method starts from. -/
def Method.Applies (method : Method) (db : Db) (event order id : UUID) : Prop :=
  ∃ row ∈ db.seats, row.id = id ∧ row.eventId = event ∧ method.source order row

/-- The seats in the order in which the method's own loop meets them:
`ReserveSeats` goes through the rows of its query, the others through the
request. -/
def Method.visited
    (db : Db) (event : UUID) (seats : List UUID) : Method → List UUID
  | .reserveSeats => (db.seats.filter (selectable seats event)).map SeatRow.id
  | .confirmSeats => seats
  | .releaseSeats => seats

/-- A committed seat transaction and everything it rested on. -/
structure Performed
    (uuid : UuidText) (method : Method) (db : Db) (req : SeatRequest)
    (rowId : UUID) (start : Nat) (event : UUID) (done : Committed) :
    Prop where
  readSeats : uuid.columns req.seatIds = some done.seats
  readEvent : uuid.column req.eventId = some event
  readOrder : uuid.column req.orderId = some done.order
  applies : ∀ id ∈ done.seats, method.Applies db event done.order id
  known : event ∈ db.events.map EventRow.id
  fresh : rowId ∉ db.outbox.map Outbox.Row.id
  result :
    done.db =
      { db with
        seats :=
          updateWhere (fun row => decide (row.id ∈ done.seats))
            (method.change done.order) db.seats
        outbox :=
          db.outbox ++
            [seatEventRow uuid event req.eventId req.seatIds
              method.target.state rowId start] }
  commands :
    done.commands =
      method.commands uuid req (method.visited db event done.seats)

/-- What a method commits for seats and an order that are already read. -/
def Method.perform (method : Method) (uuid : UuidText) (db : Db)
    (req : SeatRequest) (rowId : UUID) (start : Nat) (event order : UUID)
    (seats : List UUID) : Committed where
  db :=
    { db with
      seats :=
        updateWhere (fun row => decide (row.id ∈ seats))
          (method.change order) db.seats
      outbox :=
        db.outbox ++
          [seatEventRow uuid event req.eventId req.seatIds
            method.target.state rowId start] }
  commands := method.commands uuid req (method.visited db event seats)
  order := order
  seats := seats

theorem performed_perform {start : Nat} {event : UUID} {seats : List UUID}
    (readSeats : uuid.columns req.seatIds = some seats)
    (readEvent : uuid.column req.eventId = some event)
    (readOrder : uuid.column req.orderId = some order)
    (applies : ∀ id ∈ seats, method.Applies db event order id)
    (known : event ∈ db.events.map EventRow.id)
    (fresh : rowId ∉ db.outbox.map Outbox.Row.id) :
    Performed uuid method db req rowId start event
      (method.perform uuid db req rowId start event order seats) :=
  ⟨readSeats, readEvent, readOrder, applies, known, fresh, rfl, rfl⟩

theorem validateSeatRequest_eq_none_iff :
    validateSeatRequest uuid req = none ↔
      (uuid.parse req.eventId).isSome ∧ (uuid.parse req.orderId).isSome ∧
        SeatList uuid req.seatIds := by
  rw [seatList_iff]
  unfold validateSeatRequest validateEventID maxSeatsPerOrder
  cases uuid.parse req.eventId with
  | none => simp
  | some event =>
      cases uuid.parse req.orderId with
      | none => simp
      | some order =>
          simp only [Option.isSome_some, true_and]
          by_cases bounds : req.seatIds.length = 0 ∨ req.seatIds.length > 10
          · simp only [bounds, ↓reduceIte, reduceCtorEq, not_true_eq_false,
              false_and]
          · simp only [bounds, ↓reduceIte, not_false_eq_true, true_and]

theorem seatList_of_accepted (accepted : validateSeatRequest uuid req = none) :
    SeatList uuid req.seatIds :=
  (validateSeatRequest_eq_none_iff.mp accepted).2.2

section Exact

variable {done : Committed} {method : Method} {event : UUID} {seats : List UUID}
  {order : UUID}

/-- The locked rows are as many as the seats and all available exactly when
every seat is an available one of the event. -/
theorem selected_iff_applies (distinct : (db.seats.map SeatRow.id).Nodup)
    (seatsDistinct : seats.Nodup) :
    ((db.seats.filter (selectable seats event)).length = seats.length ∧
        ∀ row ∈ db.seats.filter (selectable seats event),
          row.status = .available) ↔
      ∀ id ∈ seats, Method.reserveSeats.Applies db event order id := by
  have requested :
      ∀ row, selectable seats event row = true → row.id ∈ seats :=
    fun row passed => (of_decide_eq_true passed).1
  rw [count_eq_iff_chosen distinct seatsDistinct requested]
  constructor
  · rintro ⟨present, free⟩ id member
    obtain ⟨row, stored, isSeat, passed⟩ := present id member
    exact ⟨row, stored, isSeat, (of_decide_eq_true passed).2,
      free row (List.mem_filter.mpr ⟨stored, passed⟩)⟩
  · intro applies
    constructor
    · intro id member
      obtain ⟨row, stored, isSeat, isEvent, _⟩ := applies id member
      exact ⟨row, stored, isSeat, decide_eq_true ⟨isSeat ▸ member, isEvent⟩⟩
    · intro row passing
      obtain ⟨stored, passed⟩ := List.mem_filter.mp passing
      obtain ⟨other, otherStored, sameId, _, available⟩ :=
        applies row.id (requested row passed)
      rw [← row_unique distinct otherStored stored sameId]
      exact available

/-- The rows the `UPDATE` moves are as many as the seats exactly when every
seat is one of the event that the order holds. -/
theorem moved_iff_applies
    (holds :
      ∀ row, method.source order row ↔
        row.status = .held ∧ row.heldBy = some order)
    (distinct : (db.seats.map SeatRow.id).Nodup) (seatsDistinct : seats.Nodup) :
    (db.seats.filter (movable seats event order)).length = seats.length ↔
      ∀ id ∈ seats, method.Applies db event order id := by
  have requested :
      ∀ row, movable seats event order row = true → row.id ∈ seats :=
    fun row passed => (of_decide_eq_true passed).1
  rw [count_eq_iff_chosen distinct seatsDistinct requested]
  constructor
  · intro present id member
    obtain ⟨row, stored, isSeat, passed⟩ := present id member
    obtain ⟨_, isEvent, heldBy, status⟩ := of_decide_eq_true passed
    exact ⟨row, stored, isSeat, isEvent, (holds row).mpr ⟨status, heldBy⟩⟩
  · intro applies id member
    obtain ⟨row, stored, isSeat, isEvent, source⟩ := applies id member
    obtain ⟨status, heldBy⟩ := (holds row).mp source
    exact ⟨row, stored, isSeat,
      decide_eq_true ⟨isSeat ▸ member, isEvent, heldBy, status⟩⟩

theorem updateWhere_movable {change : SeatRow → SeatRow}
    (distinct : (db.seats.map SeatRow.id).Nodup)
    (holds :
      ∀ row, method.source order row ↔
        row.status = .held ∧ row.heldBy = some order)
    (applies : ∀ id ∈ seats, method.Applies db event order id) :
    updateWhere (movable seats event order) change db.seats =
      updateWhere (fun row => decide (row.id ∈ seats)) change db.seats := by
  apply List.map_congr_left
  intro row stored
  by_cases member : row.id ∈ seats
  · obtain ⟨other, otherStored, sameId, isEvent, source⟩ :=
      applies row.id member
    have same : other = row := row_unique distinct otherStored stored sameId
    subst same
    obtain ⟨status, heldBy⟩ := (holds other).mp source
    simp [movable, member, isEvent, status, heldBy]
  · simp [movable, member]

theorem performed_of_reserveSeats (distinct : (db.seats.map SeatRow.id).Nodup)
    (accepted : validateSeatRequest uuid req = none)
    (committed : reserveSeats uuid db req rowId start = .ok done) :
    ∃ event, Performed uuid .reserveSeats db req rowId start event done := by
  have seatList := seatList_of_accepted accepted
  unfold reserveSeats at committed
  cases readSeats : uuid.columns req.seatIds with
  | none => simp [readSeats] at committed
  | some seats =>
    cases readEvent : uuid.column req.eventId with
    | none => simp [readSeats, readEvent] at committed
    | some event =>
      simp only [readSeats, readEvent] at committed
      split at committed
      · cases committed
      · rename_i counted
        split at committed
        · cases committed
        · rename_i free
          cases readOrder : uuid.column req.orderId with
          | none => simp [readOrder] at committed
          | some order =>
              simp only [readOrder] at committed
              split at committed
              · cases committed
              · rename_i emittedDb emitted
                cases committed
                obtain ⟨found, read, known, fresh, nextDb⟩ :=
                  (emitSeatEvent_eq_ok_iff seatList.ne_nil).mp emitted
                cases readEvent.symm.trans read
                have available :
                    ∀ row ∈ db.seats.filter (selectable seats event),
                      row.status = .available := by
                  intro row member
                  simp only [List.any_eq_true, decide_eq_true_eq,
                    not_exists, not_and, Decidable.not_not] at free
                  exact free row member
                refine ⟨event, readSeats, readEvent, readOrder, ?_, known,
                  fresh, nextDb, ?_⟩
                · apply (selected_iff_applies distinct
                    (seatList.columns_nodup readSeats)).mp
                  refine ⟨?_, available⟩
                  rw [uuid.columns_length readSeats]
                  exact Decidable.not_not.mp counted
                · simp [Method.commands, Method.visited]

theorem reserveSeats_of_performed
    {event : UUID} (distinct : (db.seats.map SeatRow.id).Nodup)
    (accepted : validateSeatRequest uuid req = none)
    (performed : Performed uuid .reserveSeats db req rowId start event done) :
    reserveSeats uuid db req rowId start = .ok done := by
  have seatList := seatList_of_accepted accepted
  obtain ⟨nextDb, commands, order, seats⟩ := done
  obtain
    ⟨readSeats, readEvent, readOrder, applies, known, fresh, nextDb_eq,
      commands_eq⟩ := performed
  dsimp only at *
  rw [nextDb_eq, commands_eq]
  have seatsDistinct := seatList.columns_nodup readSeats
  obtain ⟨counted, available⟩ :=
    (selected_iff_applies distinct seatsDistinct).mpr applies
  have free :
      ¬ ((db.seats.filter (selectable seats event)).any fun row =>
        decide (row.status ≠ .available)) = true := by
    rw [List.any_eq_true]
    rintro ⟨row, member, taken⟩
    exact of_decide_eq_true taken (available row member)
  have emitted :
      emitSeatEvent uuid
          { db with
            seats :=
              updateWhere (fun row => decide (row.id ∈ seats)) (hold order)
                db.seats }
          req.eventId req.seatIds .held rowId start = .ok _ :=
    (emitSeatEvent_eq_ok_iff seatList.ne_nil).mpr
      ⟨event, readEvent, known, fresh, rfl⟩
  rw [uuid.columns_length readSeats] at counted
  simp only [reserveSeats, readSeats, readEvent]
  rw [if_neg (not_not_intro counted), if_neg free]
  simp only [readOrder, emitted, Method.commands, Method.visited, List.map_map]
  rfl

section Move

variable
  {newStatus : SeatStatus} {failure : String} (method : Method)
  (holds :
    ∀ order row, method.source order row ↔
      row.status = .held ∧ row.heldBy = some order)
  (changes : ∀ order, method.change order = unhold newStatus)
  (deletes :
    ∀ seats, method.commands uuid req seats =
      req.seatIds.map fun id => .del (holdKey id))

include holds changes deletes

theorem performed_of_moveHeldSeats (distinct : (db.seats.map SeatRow.id).Nodup)
    (accepted : validateSeatRequest uuid req = none)
    (committed :
      (moveHeldSeats uuid db req newStatus method.target.state failure rowId
        start).map (deleteHolds req) = .ok done) :
    ∃ event, Performed uuid method db req rowId start event done := by
  have seatList := seatList_of_accepted accepted
  unfold moveHeldSeats at committed
  cases readSeats : uuid.columns req.seatIds with
  | none => simp [readSeats, Except.map] at committed
  | some seats =>
    cases readEvent : uuid.column req.eventId with
    | none => simp [readSeats, readEvent, Except.map] at committed
    | some event =>
      cases readOrder : uuid.column req.orderId with
      | none => simp [readSeats, readEvent, readOrder, Except.map] at committed
      | some order =>
          simp only [readSeats, readEvent, readOrder] at committed
          split at committed
          · cases committed
          · rename_i counted
            split at committed
            · cases committed
            · rename_i emittedDb emitted
              cases committed
              obtain ⟨found, read, known, fresh, nextDb⟩ :=
                (emitSeatEvent_eq_ok_iff seatList.ne_nil).mp emitted
              cases readEvent.symm.trans read
              have seatsDistinct := seatList.columns_nodup readSeats
              have applies :
                  ∀ id ∈ seats, method.Applies db event order id := by
                apply (moved_iff_applies (holds order) distinct
                  seatsDistinct).mp
                rw [uuid.columns_length readSeats]
                exact Decidable.not_not.mp counted
              refine ⟨event, readSeats, readEvent, readOrder, applies, known,
                fresh, ?_, (deletes _).symm⟩
              rw [nextDb, changes,
                updateWhere_movable distinct (holds order) applies]
              rfl

theorem moveHeldSeats_of_performed
    {event : UUID} (distinct : (db.seats.map SeatRow.id).Nodup)
    (accepted : validateSeatRequest uuid req = none)
    (performed : Performed uuid method db req rowId start event done) :
    (moveHeldSeats uuid db req newStatus method.target.state failure rowId
        start).map (deleteHolds req) = .ok done := by
  have seatList := seatList_of_accepted accepted
  obtain ⟨nextDb, commands, order, seats⟩ := done
  obtain
    ⟨readSeats, readEvent, readOrder, applies, known, fresh, nextDb_eq,
      commands_eq⟩ := performed
  dsimp only at *
  rw [nextDb_eq, commands_eq]
  have seatsDistinct := seatList.columns_nodup readSeats
  have counted :=
    (moved_iff_applies (holds order) distinct seatsDistinct).mpr applies
  have emitted :
      emitSeatEvent uuid
          { db with
            seats :=
              updateWhere (fun row => decide (row.id ∈ seats))
                (unhold newStatus) db.seats }
          req.eventId req.seatIds method.target.state rowId start = .ok _ :=
    (emitSeatEvent_eq_ok_iff seatList.ne_nil).mpr
      ⟨event, readEvent, known, fresh, rfl⟩
  rw [uuid.columns_length readSeats] at counted
  simp [moveHeldSeats, readSeats, readEvent, readOrder, counted,
    updateWhere_movable distinct (holds order) applies, emitted, changes,
    deletes, deleteHolds, Except.map]

end Move

/-- A seat transaction commits exactly when everything it rests on is there,
and then does exactly this. -/
theorem transact_eq_ok_iff (distinct : (db.seats.map SeatRow.id).Nodup)
    (accepted : validateSeatRequest uuid req = none) :
    transact uuid method db req rowId start = .ok done ↔
      ∃ event, Performed uuid method db req rowId start event done := by
  cases method with
  | reserveSeats =>
      constructor
      · exact performed_of_reserveSeats distinct accepted
      · rintro ⟨event, performed⟩
        exact reserveSeats_of_performed distinct accepted performed
  | confirmSeats =>
      constructor
      · exact performed_of_moveHeldSeats .confirmSeats (fun _ _ => Iff.rfl)
          (fun _ => rfl) (fun _ => rfl) distinct accepted
      · rintro ⟨event, performed⟩
        exact moveHeldSeats_of_performed .confirmSeats (fun _ _ => Iff.rfl)
          (fun _ => rfl) (fun _ => rfl) distinct accepted performed
  | releaseSeats =>
      constructor
      · exact performed_of_moveHeldSeats .releaseSeats (fun _ _ => Iff.rfl)
          (fun _ => rfl) (fun _ => rfl) distinct accepted
      · rintro ⟨event, performed⟩
        exact moveHeldSeats_of_performed .releaseSeats (fun _ _ => Iff.rfl)
          (fun _ => rfl) (fun _ => rfl) distinct accepted performed

end Exact

/-- The effect of a committed seat transaction on seats whose rows satisfied
`source` and were changed by `change`. -/
structure Moved
    (uuid : UuidText) (db : Db) (req : SeatRequest) (start : Nat)
    (state : SeatState) (source : SeatRow → Prop)
    (change : SeatRow → SeatRow) (done : Committed) : Prop where
  seats : uuid.columns req.seatIds = some done.seats
  order : uuid.column req.orderId = some done.order
  distinct : done.seats.Nodup
  before : ∀ id ∈ done.seats, ∃ row, db.seat id = some row ∧ source row
  rows :
    done.db.seats =
      updateWhere (fun row => decide (row.id ∈ done.seats)) change db.seats
  events : done.db.events = db.events
  outbox :
    ∃ row, done.db.outbox = db.outbox ++ [row] ∧
      row.id ∉ db.outbox.map Outbox.Row.id ∧
      listed uuid row = done.seats ∧ row.payload.state = state ∧
      row.published = false ∧ row.createdAt = start

theorem Moved.seat {state : SeatState} {source : SeatRow → Prop}
    {change : SeatRow → SeatRow} (keeps : ∀ row, (change row).id = row.id)
    (moved : Moved uuid db req start state source change done) (id : UUID) :
    done.db.seat id =
      (db.seat id).map fun row =>
        if id ∈ done.seats then change row else row := by
  rw [Db.seat, moved.rows, lookup_updateWhere keeps, ← Db.seat]
  cases found : db.seat id with
  | none => rfl
  | some row =>
      have rowKey : row.id = id := key_of_lookup found
      simp [rowKey]

theorem Moved.wellFormed {state : SeatState} {source : SeatRow → Prop}
    {change : SeatRow → SeatRow} (keeps : ∀ row, (change row).id = row.id)
    (holder : ∀ row, (change row).heldBy.isSome ↔ (change row).status = .held)
    (wellFormed : WellFormed db)
    (moved : Moved uuid db req start state source change done) :
    WellFormed done.db where
  seatIds := by
    rw [moved.rows, map_key_updateWhere keeps]
    exact wellFormed.seatIds
  outboxIds := by
    obtain ⟨row, appended, fresh, _⟩ := moved.outbox
    rw [appended, List.map_append]
    exact wellFormed.outboxIds.append (List.nodup_singleton row.id) (by
      simpa [List.disjoint_singleton] using fresh)
  holder := by
    intro row member
    rw [moved.rows] at member
    obtain ⟨old, stored, rfl⟩ := mem_updateWhere.mp member
    by_cases named : old.id ∈ done.seats
    · simpa [named] using holder old
    · simpa [named] using wellFormed.holder old stored

/-- The commands follow the order of the rows, so they are known up to
it. -/
theorem Method.visited_perm {event : UUID} {seats : List UUID}
    (distinct : (db.seats.map SeatRow.id).Nodup) (seatsDistinct : seats.Nodup)
    (applies : ∀ id ∈ seats, method.Applies db event order id) :
    (method.visited db event seats).Perm seats := by
  cases method with
  | reserveSeats =>
      have counted :=
        ((selected_iff_applies distinct seatsDistinct).mpr applies).1
      exact keys_perm_of_count distinct
        (fun row passed => (of_decide_eq_true passed).1) counted
  | confirmSeats => exact List.Perm.refl seats
  | releaseSeats => exact List.Perm.refl seats

theorem Method.commands_perm {left right : List UUID} (perm : left.Perm right) :
    (method.commands uuid req left).Perm
      (method.commands uuid req right) := by
  cases method with
  | reserveSeats => exact perm.map _
  | confirmSeats => exact List.Perm.refl _
  | releaseSeats => exact List.Perm.refl _

theorem transact_ok (wellFormed : WellFormed db)
    (accepted : validateSeatRequest uuid req = none)
    (committed : transact uuid method db req rowId start = .ok done) :
    Moved uuid db req start method.target.state
        (method.source done.order) (method.change done.order) done ∧
      done.commands.Perm (method.commands uuid req done.seats) := by
  have seatList := seatList_of_accepted accepted
  obtain ⟨event, performed⟩ :=
    (transact_eq_ok_iff wellFormed.seatIds accepted).mp committed
  have distinct : done.seats.Nodup := seatList.columns_nodup performed.readSeats
  refine
    ⟨⟨performed.readSeats, performed.readOrder, distinct, ?_,
      by rw [performed.result], by rw [performed.result], ?_⟩, ?_⟩
  · intro id member
    obtain ⟨row, stored, isSeat, _, source⟩ := performed.applies id member
    refine ⟨row, ?_, source⟩
    rw [← isSeat]
    exact lookup_of_mem wellFormed.seatIds stored
  · rw [performed.result]
    exact
      ⟨_, rfl, performed.fresh, filterMap_of_columns performed.readSeats, rfl,
        rfl, rfl⟩
  · rw [performed.commands]
    exact Method.commands_perm
      (Method.visited_perm wellFormed.seatIds distinct performed.applies)

theorem transact_wellFormed (wellFormed : WellFormed db)
    (accepted : validateSeatRequest uuid req = none)
    (committed : transact uuid method db req rowId start = .ok done) :
    WellFormed done.db :=
  (transact_ok wellFormed accepted committed).1.wellFormed
    (method.change_id done.order) (method.change_holder done.order)
    wellFormed

/-- A committed method found every named seat in the status it starts from
and left it in the status it leads to; the other seats kept theirs. -/
theorem transact_status (wellFormed : WellFormed db)
    (accepted : validateSeatRequest uuid req = none)
    (committed : transact uuid method db req rowId start = .ok done) :
    (∀ id ∈ done.seats, db.status id = some method.origin) ∧
      ∀ id, done.db.status id =
        if id ∈ done.seats then some method.target else db.status id := by
  have moved := (transact_ok wellFormed accepted committed).1
  have origin : ∀ id ∈ done.seats, db.status id = some method.origin := by
    intro id member
    obtain ⟨row, found, source⟩ := moved.before id member
    rw [Db.status, found, Option.map_some, Method.origin_of_source source]
  refine ⟨origin, ?_⟩
  intro id
  rw [Db.status, moved.seat (method.change_id done.order)]
  by_cases member : id ∈ done.seats
  · obtain ⟨row, found, _⟩ := moved.before id member
    simp [found, member]
  · simp only [member, if_false]
    cases found : db.seat id <;> simp [Db.status, found]

/-- The outbox row for one entry of `byEvent`. -/
def freedRow (uuid : UuidText) (newId : UUID → UUID) (start : Nat)
    (group : UUID × List UUID) : Outbox.Row SeatEvent :=
  seatEventRow uuid group.1 (uuid.string group.1)
    (group.2.map uuid.string) .available (newId group.1) start

theorem emitFreed_ok {groups : List (UUID × List UUID)}
    (nonempty : ∀ group ∈ groups, group.2 ≠ [])
    (distinct : (db.outbox.map Outbox.Row.id).Nodup)
    (emitted : emitFreed uuid newId start groups db = .ok next) :
    next =
        { db with
          outbox := db.outbox ++ groups.map (freedRow uuid newId start) } ∧
      (next.outbox.map Outbox.Row.id).Nodup := by
  induction groups generalizing db with
  | nil =>
      cases emitted
      exact ⟨by simp, distinct⟩
  | cons group rest ih =>
      obtain ⟨event, seatIds⟩ := group
      unfold emitFreed at emitted
      split at emitted
      · cases emitted
      · rename_i emittedDb emittedHead
        have nonemptyHead : seatIds.map uuid.string ≠ [] := by
          intro empty
          exact nonempty (event, seatIds) List.mem_cons_self
            (List.map_eq_nil_iff.mp empty)
        obtain ⟨found, read, _, fresh, rfl⟩ :=
          (emitSeatEvent_eq_ok_iff nonemptyHead).mp emittedHead
        have same : found = event := by
          rw [uuid.column_string event] at read
          exact (Option.some.inj read).symm
        subst same
        have distinctHead :
            ((db.outbox ++
                [freedRow uuid newId start (found, seatIds)]).map
              Outbox.Row.id).Nodup := by
          rw [List.map_append]
          exact distinct.append (List.nodup_singleton _) (by
            simpa [List.disjoint_singleton, freedRow, seatEventRow] using fresh)
        obtain ⟨shape, distinctNext⟩ :=
          ih
            (fun other member =>
              nonempty other (List.mem_cons_of_mem _ member))
            distinctHead emitted
        refine ⟨?_, distinctNext⟩
        rw [shape]
        simp [freedRow]

theorem mem_byEvent_iff {released : List SeatRow} {group : UUID × List UUID} :
    group ∈ byEvent released ↔
      group.1 ∈ released.map SeatRow.eventId ∧
        group.2 =
          (released.filter fun row => decide (row.eventId = group.1)).map
            SeatRow.id := by
  unfold byEvent
  rw [List.mem_map]
  constructor
  · rintro ⟨event, member, rfl⟩
    exact ⟨List.mem_dedup.mp member, rfl⟩
  · rintro ⟨member, ids⟩
    exact ⟨group.1, List.mem_dedup.mpr member, by rw [← ids]⟩

theorem byEvent_nonempty {released : List SeatRow} {group : UUID × List UUID}
    (member : group ∈ byEvent released) : group.2 ≠ [] := by
  obtain ⟨named, ids⟩ := mem_byEvent_iff.mp member
  obtain ⟨row, stored, event⟩ := List.mem_map.mp named
  have listedRow : row.id ∈ group.2 := by
    rw [ids]
    exact List.mem_map_of_mem
      (List.mem_filter.mpr ⟨stored, decide_eq_true event⟩)
  exact List.ne_nil_of_mem listedRow

/-- The effect of a committed sweep transaction. -/
structure Swept
    (uuid : UuidText) (db : Db) (expired : List UUID) (start : Nat)
    (next : Db) : Prop where
  rows :
    next.seats = updateWhere (sweepable expired) (unhold .available) db.seats
  events : next.events = db.events
  outboxIds : (next.outbox.map Outbox.Row.id).Nodup
  outbox :
    ∃ added, next.outbox = db.outbox ++ added ∧
      (∀ row ∈ added,
        row.payload.state = .available ∧ row.published = false ∧
          row.createdAt = start) ∧
      ∀ id, (∃ row ∈ added, id ∈ listed uuid row) ↔
        ∃ row ∈ db.seats, row.id = id ∧ sweepable expired row = true

/-- The rows a committed sweep writes, one for each entry of `byEvent`. -/
theorem sweepHolds_eq_ok (wellFormed : WellFormed db)
    (committed : sweepHolds uuid db expired newId start = .ok next) :
    next =
        { db with
          seats := updateWhere (sweepable expired) (unhold .available) db.seats
          outbox :=
            db.outbox ++
              (byEvent (db.seats.filter (sweepable expired))).map
                (freedRow uuid newId start) } ∧
      (next.outbox.map Outbox.Row.id).Nodup :=
  emitFreed_ok (fun _ member => byEvent_nonempty member)
    (by exact wellFormed.outboxIds) committed

theorem sweepHolds_ok (wellFormed : WellFormed db)
    (committed : sweepHolds uuid db expired newId start = .ok next) :
    Swept uuid db expired start next := by
  obtain ⟨shape, distinct⟩ := sweepHolds_eq_ok wellFormed committed
  have listedFreed :
      ∀ group, listed uuid (freedRow uuid newId start group) = group.2 :=
    fun group => filterMap_column_string group.2
  refine ⟨by rw [shape], by rw [shape], distinct, ?_⟩
  refine ⟨(byEvent (db.seats.filter (sweepable expired))).map
      (freedRow uuid newId start), by rw [shape], ?_, ?_⟩
  · intro row member
    obtain ⟨group, _, rfl⟩ := List.mem_map.mp member
    exact ⟨rfl, rfl, rfl⟩
  · intro id
    constructor
    · rintro ⟨row, member, named⟩
      obtain ⟨group, groupMember, rfl⟩ := List.mem_map.mp member
      rw [listedFreed, (mem_byEvent_iff.mp groupMember).2] at named
      obtain ⟨seat, seatMember, rfl⟩ := List.mem_map.mp named
      obtain ⟨stored, passed⟩ :=
        List.mem_filter.mp (List.mem_filter.mp seatMember).1
      exact ⟨seat, stored, rfl, passed⟩
    · rintro ⟨seat, stored, rfl, passed⟩
      have released : seat ∈ db.seats.filter (sweepable expired) :=
        List.mem_filter.mpr ⟨stored, passed⟩
      let group : UUID × List UUID :=
        (seat.eventId,
          ((db.seats.filter (sweepable expired)).filter fun row =>
            decide (row.eventId = seat.eventId)).map SeatRow.id)
      have groupMember :
          group ∈ byEvent (db.seats.filter (sweepable expired)) :=
        mem_byEvent_iff.mpr ⟨List.mem_map_of_mem released, rfl⟩
      refine ⟨freedRow uuid newId start group,
        List.mem_map_of_mem groupMember, ?_⟩
      rw [listedFreed]
      exact List.mem_map_of_mem
        (List.mem_filter.mpr ⟨released, decide_eq_true rfl⟩)

theorem Swept.seat (swept : Swept uuid db expired start next) (id : UUID) :
    next.seat id =
      (db.seat id).map fun row =>
        if sweepable expired row then unhold .available row else row := by
  rw [Db.seat, swept.rows, lookup_updateWhere (unhold_id .available)]
  rfl

def freedIds (db : Db) (expired : List UUID) : List UUID :=
  (db.seats.filter (sweepable expired)).map SeatRow.id

theorem mem_freedIds_iff {id : UUID} (wellFormed : WellFormed db) :
    id ∈ freedIds db expired ↔ id ∈ expired ∧ db.status id = some .held := by
  unfold freedIds
  constructor
  · intro member
    obtain ⟨row, freed, rfl⟩ := List.mem_map.mp member
    obtain ⟨stored, passed⟩ := List.mem_filter.mp freed
    obtain ⟨listed, status⟩ := of_decide_eq_true passed
    have found : db.seat row.id = some row :=
      lookup_of_mem wellFormed.seatIds stored
    refine ⟨listed, ?_⟩
    rw [Db.status, found, Option.map_some, status]
  · rintro ⟨listed, status⟩
    obtain ⟨row, found, rowStatus⟩ := Option.map_eq_some_iff.mp status
    have rowKey : row.id = id := key_of_lookup found
    refine List.mem_map.mpr ⟨row, ?_, rowKey⟩
    refine List.mem_filter.mpr ⟨mem_of_lookup found, ?_⟩
    exact decide_eq_true ⟨rowKey ▸ listed, rowStatus⟩

theorem Swept.status (wellFormed : WellFormed db)
    (swept : Swept uuid db expired start next) (id : UUID) :
    next.status id =
      if id ∈ freedIds db expired then some .available
      else db.status id := by
  rw [Db.status, swept.seat, Option.map_map]
  by_cases freed : id ∈ freedIds db expired
  · obtain ⟨listed, status⟩ := (mem_freedIds_iff wellFormed).mp freed
    obtain ⟨row, found, rowStatus⟩ := Option.map_eq_some_iff.mp status
    have rowKey : row.id = id := key_of_lookup found
    simp [freed, found, sweepable, rowKey, listed, rowStatus, unhold]
  · rw [if_neg freed, Db.status]
    cases found : db.seat id with
    | none => rfl
    | some row =>
        have rowKey : row.id = id := key_of_lookup found
        have kept : sweepable expired row = false := by
          rw [sweepable, decide_eq_false_iff_not]
          rintro ⟨listed, status⟩
          apply freed
          apply (mem_freedIds_iff wellFormed).mpr
          refine ⟨rowKey ▸ listed, ?_⟩
          rw [Db.status, found, Option.map_some, status]
        simp [kept]

theorem Swept.wellFormed (wellFormed : WellFormed db)
    (swept : Swept uuid db expired start next) : WellFormed next where
  seatIds := by
    rw [swept.rows, map_key_updateWhere (unhold_id .available)]
    exact wellFormed.seatIds
  outboxIds := swept.outboxIds
  holder := by
    intro row member
    rw [swept.rows] at member
    obtain ⟨old, stored, rfl⟩ := mem_updateWhere.mp member
    by_cases passed : sweepable expired old
    · simp [passed, unhold]
    · simpa [passed] using wellFormed.holder old stored

theorem newSeats_ids (eventId : UUID) (number : Nat) (ids : List UUID) :
    (newSeats eventId number ids).map SeatRow.id = ids := by
  induction ids generalizing number with
  | nil => rfl
  | cons id rest ih => simp [newSeats, ih]

theorem newSeats_available {number : Nat}
    (member : row ∈ newSeats eventId number ids) :
    row.status = .available ∧ row.heldBy = none := by
  induction ids generalizing number with
  | nil => cases member
  | cons id rest ih =>
      rcases List.mem_cons.mp member with rfl | later
      · exact ⟨rfl, rfl⟩
      · exact ih later

theorem createEvent_eq_ok_iff :
    createEvent db event eventId seatIds start = .ok next ↔
      validateCreateEvent event = none ∧
        eventId ∉ db.events.map EventRow.id ∧
        (db.seats.map SeatRow.id ++ seatIds).Nodup ∧
        next =
          { db with
            events :=
              db.events ++ [⟨eventId, trimSpace event.name, start⟩]
            seats := db.seats ++ newSeats eventId 1 seatIds } := by
  unfold createEvent
  cases validateCreateEvent event with
  | some err => simp
  | none =>
      by_cases taken : eventId ∈ db.events.map EventRow.id
      · simp only [taken, if_true, not_true, false_and, and_false, reduceCtorEq]
      · by_cases distinct : (db.seats.map SeatRow.id ++ seatIds).Nodup
        · simp only [taken, distinct, not_true, not_false_iff, if_false,
            true_and, Except.ok.injEq]
          exact eq_comm
        · simp only [taken, distinct, not_false_iff, if_true, if_false,
            true_and, false_and, reduceCtorEq]

theorem createEvent_ok
    (committed : createEvent db event eventId seatIds start = .ok next) :
    next.seats = db.seats ++ newSeats eventId 1 seatIds ∧
      next.outbox = db.outbox ∧
      (db.seats.map SeatRow.id ++ seatIds).Nodup := by
  obtain ⟨_, _, distinct, rfl⟩ := createEvent_eq_ok_iff.mp committed
  exact ⟨rfl, rfl, distinct⟩

theorem newSeats_eventId {number : Nat}
    (member : row ∈ newSeats eventId number ids) : row.eventId = eventId := by
  induction ids generalizing number with
  | nil => cases member
  | cons id rest ih =>
      rcases List.mem_cons.mp member with rfl | later
      · rfl
      · exact ih later

theorem createEvent_references
    (references : ∀ row ∈ db.seats, row.eventId ∈ db.events.map EventRow.id)
    (committed : createEvent db event eventId seatIds start = .ok next) :
    ∀ row ∈ next.seats, row.eventId ∈ next.events.map EventRow.id := by
  obtain ⟨_, _, _, rfl⟩ := createEvent_eq_ok_iff.mp committed
  intro row member
  rw [List.map_append, List.map_singleton, List.mem_append, List.mem_singleton]
  rcases List.mem_append.mp member with old | new
  · exact Or.inl (references row old)
  · exact Or.inr (newSeats_eventId new)

theorem createEvent_seat
    (committed : createEvent db event eventId seatIds start = .ok next)
    (id : UUID) :
    next.seat id = db.seat id ∨
      db.seat id = none ∧
        ∃ row, next.seat id = some row ∧ row.status = .available ∧
          row.heldBy = none := by
  obtain ⟨seats, _, _⟩ := createEvent_ok committed
  rw [Db.seat, Db.seat, seats, lookup_append]
  cases old : lookup SeatRow.id db.seats id with
  | some row => exact Or.inl rfl
  | none =>
      cases new : lookup SeatRow.id (newSeats eventId 1 seatIds) id with
      | none => exact Or.inl rfl
      | some row =>
          exact Or.inr ⟨rfl, row, rfl, newSeats_available (mem_of_lookup new)⟩

theorem createEvent_wellFormed (wellFormed : WellFormed db)
    (committed : createEvent db event eventId seatIds start = .ok next) :
    WellFormed next := by
  obtain ⟨seats, outbox, distinct⟩ := createEvent_ok committed
  refine ⟨?_, by rw [outbox]; exact wellFormed.outboxIds, ?_⟩
  · rw [seats, List.map_append, newSeats_ids]
    exact distinct
  · intro row member
    rw [seats] at member
    rcases List.mem_append.mp member with old | new
    · exact wellFormed.holder row old
    · obtain ⟨status, heldBy⟩ := newSeats_available new
      simp [status, heldBy]

end TicketWave.Inventory
