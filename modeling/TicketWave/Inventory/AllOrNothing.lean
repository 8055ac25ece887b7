import TicketWave.Inventory.SeatSales
import TicketWave.Library.Attempt

/-!
# Seat calls are all or nothing

One call by itself, on any database that the constraints allow.
-/

namespace TicketWave.Inventory

open Library

variable {uuid : UuidText} {db : Db} {req : SeatRequest} {method : Method}
  {rowId : UUID} {start : Nat}

/-- The primary key of `seats` and its reference to `events`. -/
structure Constrained (db : Db) : Prop where
  seatIds : (db.seats.map SeatRow.id).Nodup
  references : ∀ row ∈ db.seats, row.eventId ∈ db.events.map EventRow.id

instance : DecidablePred Constrained := fun db =>
  decidable_of_iff
    ((db.seats.map SeatRow.id).Nodup ∧
      ∀ row ∈ db.seats, row.eventId ∈ db.events.map EventRow.id)
    ⟨fun both => ⟨both.1, both.2⟩, fun both => ⟨both.1, both.2⟩⟩

theorem references_updateWhere
    {chosen : SeatRow → Bool} {change : SeatRow → SeatRow}
    (keeps : ∀ row, (change row).eventId = row.eventId)
    (constrained : Constrained db) :
    ∀ row ∈ updateWhere chosen change db.seats,
      row.eventId ∈ db.events.map EventRow.id := by
  intro row member
  obtain ⟨old, stored, rfl⟩ := mem_updateWhere.mp member
  have known := constrained.references old stored
  by_cases picked : chosen old
  · rw [if_pos picked, keeps]
    exact known
  · rw [if_neg picked]
    exact known

theorem constrained_of_effect {state next : State uuid}
    (wellFormed : WellFormed state.db) (constrained : Constrained state.db)
    (effect : Effect state next) : Constrained next.db := by
  refine ⟨(wellFormed_of_effect wellFormed effect).seatIds, ?_⟩
  cases effect with
  | nothing db _ =>
      rw [db]
      exact constrained.references
  | created committed _ =>
      exact createEvent_references constrained.references committed
  | @called _ _ _ request _ _ committed db _ =>
      have moved := (transact_ok wellFormed request.valid committed).1
      rw [db, moved.rows, moved.events]
      exact references_updateWhere (Method.change_eventId _ _) constrained
  | swept committed _ =>
      have swept := sweepHolds_ok wellFormed committed
      rw [swept.rows, swept.events]
      exact references_updateWhere (fun _ => rfl) constrained

theorem constrained_empty : Constrained Db.empty where
  seatIds := List.nodup_nil
  references := nofun

/-- The constraints hold in every reachable state. -/
theorem constrained_of_run {labels : List Label} {state : State uuid}
    (ran : run step (State.empty uuid) labels = some state) :
    WellFormed state.db ∧ Constrained state.db := by
  have preserved :
      ∀ {before after : State uuid} {label : Label},
        WellFormed before.db ∧ Constrained before.db →
          step before label = some after →
            WellFormed after.db ∧ Constrained after.db := by
    intro before after label kept stepped
    have effect := (transition_of_step stepped).effect
    exact ⟨wellFormed_of_effect kept.1 effect,
      constrained_of_effect kept.1 kept.2 effect⟩
  exact invariant_of_run preserved ⟨wellFormed_empty, constrained_empty⟩ ran

/-- A seat call as its caller sees it, up to the commit.  The Redis commands
that follow touch no table, and their errors are logged and dropped. -/
def seatCall (uuid : UuidText) (method : Method) (db : Db) (req : SeatRequest)
    (rowId : UUID) (start : Nat) (outcome : Outcome) (broken : Status) :
    Attempt Db Status :=
  match validateSeatRequest uuid req with
  | some err => ⟨db, false, some err⟩
  | none =>
      attempt outcome db
        ((transact uuid method db req rowId start).map Committed.db) broken

variable {outcome : Outcome} {broken : Status}

theorem seatCall_of_accepted (accepted : validateSeatRequest uuid req = none) :
    seatCall uuid method db req rowId start outcome broken =
      attempt outcome db
        ((transact uuid method db req rowId start).map Committed.db)
        broken := by
  rw [seatCall, accepted]

theorem transact_of_seatCall (accepted : validateSeatRequest uuid req = none)
    (succeeded :
      (seatCall uuid method db req rowId start outcome broken).error = none) :
    ∃ done,
      transact uuid method db req rowId start = .ok done ∧
        (seatCall uuid method db req rowId start outcome broken).db =
          done.db := by
  rw [seatCall_of_accepted accepted] at succeeded ⊢
  cases result : transact uuid method db req rowId start with
  | error err =>
      rw [result] at succeeded
      cases outcome <;> cases succeeded
  | ok done =>
      rw [result] at succeeded
      cases outcome with
      | done => exact ⟨done, rfl, rfl⟩
      | failed => cases succeeded
      | lost => cases succeeded

theorem seatCall_of_transact {done : Committed}
    (accepted : validateSeatRequest uuid req = none)
    (committed : transact uuid method db req rowId start = .ok done) :
    (seatCall uuid method db req rowId start .done broken).error = none := by
  rw [seatCall_of_accepted accepted, committed]
  rfl

/-- An error leaves the tables as they were, unless it stands for a reply
that was lost. -/
theorem seatCall_db_of_error
    (failed :
      (seatCall uuid method db req rowId start outcome broken).error ≠ none)
    (replied : outcome ≠ .lost) :
    (seatCall uuid method db req rowId start outcome broken).db = db := by
  unfold seatCall at failed ⊢
  cases checked : validateSeatRequest uuid req with
  | some err => rfl
  | none =>
      rw [checked] at failed
      cases result : transact uuid method db req rowId start with
      | error err => cases outcome <;> rfl
      | ok done =>
          rw [result] at failed
          cases outcome with
          | done => exact absurd rfl failed
          | failed => rfl
          | lost => exact absurd rfl replied

/-- With constrained tables and an unused row ID, a transaction commits as
soon as every seat qualifies. -/
theorem transact_of_applies {seats : List UUID} {event order : UUID}
    (constrained : Constrained db)
    (accepted : validateSeatRequest uuid req = none)
    (readSeats : uuid.columns req.seatIds = some seats)
    (readEvent : uuid.column req.eventId = some event)
    (readOrder : uuid.column req.orderId = some order)
    (fresh : rowId ∉ db.outbox.map Outbox.Row.id)
    (applies : ∀ id ∈ seats, method.Applies db event order id) :
    ∃ done, transact uuid method db req rowId start = .ok done := by
  have nonempty := (seatList_of_accepted accepted).ne_nil
  have known : event ∈ db.events.map EventRow.id := by
    -- the request names a seat, whose row refers to the event
    cases seats with
    | nil =>
        have none : req.seatIds.length = 0 :=
          (uuid.columns_length readSeats).symm
        exact absurd (List.length_eq_zero_iff.mp none) nonempty
    | cons id rest =>
        obtain ⟨row, stored, _, isEvent, _⟩ := applies id List.mem_cons_self
        rw [← isEvent]
        exact constrained.references row stored
  exact ⟨method.perform uuid db req rowId start event order seats,
    (transact_eq_ok_iff constrained.seatIds accepted).mpr
      ⟨event,
        performed_perform readSeats readEvent readOrder applies known
          fresh⟩⟩

/-- Seat calls are all or nothing. -/
theorem seat_calls_are_all_or_nothing
    {outcome : Outcome} {broken : Status} (constrained : Constrained db)
    (accepted : validateSeatRequest uuid req = none) :
    (∀ seats event order,
      uuid.columns req.seatIds = some seats →
      uuid.column req.eventId = some event →
      uuid.column req.orderId = some order →
      rowId ∉ db.outbox.map Outbox.Row.id → outcome = .done →
        ((seatCall uuid method db req rowId start outcome broken).error =
            none ↔
          ∀ id ∈ seats, method.Applies db event order id)) ∧
    ((seatCall uuid method db req rowId start outcome broken).error = none →
      ∃ seats event order,
        uuid.columns req.seatIds = some seats ∧
          uuid.column req.eventId = some event ∧
          uuid.column req.orderId = some order ∧
          (∀ id ∈ seats, method.Applies db event order id) ∧
          (seatCall uuid method db req rowId start outcome
              broken).db.seats =
            updateWhere (fun row => decide (row.id ∈ seats))
              (method.change order) db.seats) ∧
    ((seatCall uuid method db req rowId start outcome broken).error ≠ none →
      outcome ≠ .lost →
        (seatCall uuid method db req rowId start outcome broken).db = db) := by
  have performed_of_success :
      (seatCall uuid method db req rowId start outcome broken).error =
          none →
        ∃ event done,
          Performed uuid method db req rowId start event done ∧
            (seatCall uuid method db req rowId start outcome broken).db =
              done.db := by
    intro succeeded
    obtain ⟨done, committed, result⟩ := transact_of_seatCall accepted succeeded
    obtain ⟨event, performed⟩ :=
      (transact_eq_ok_iff constrained.seatIds accepted).mp committed
    exact ⟨event, done, performed, result⟩
  refine ⟨?_, ?_, seatCall_db_of_error⟩
  · rintro seats event order readSeats readEvent readOrder fresh rfl
    constructor
    · intro succeeded
      obtain ⟨found, done, performed, _⟩ := performed_of_success succeeded
      cases readSeats.symm.trans performed.readSeats
      cases readEvent.symm.trans performed.readEvent
      cases readOrder.symm.trans performed.readOrder
      exact performed.applies
    · intro applies
      obtain ⟨done, committed⟩ :=
        transact_of_applies constrained accepted readSeats readEvent
          readOrder fresh applies
      exact seatCall_of_transact accepted committed
  · intro succeeded
    obtain ⟨event, done, performed, result⟩ := performed_of_success succeeded
    refine ⟨done.seats, event, done.order, performed.readSeats,
      performed.readEvent, performed.readOrder, performed.applies, ?_⟩
    rw [result, performed.result]

/-- Event 1 with the seats 2 and 3, both available. -/
def twoSeats : Db where
  events := [⟨1, "Concert", 0⟩]
  seats := newSeats 1 1 [2, 3]
  outbox := []

theorem seat_calls_are_all_or_nothing_for_two_seats :
    Constrained twoSeats ∧
      validateSeatRequest standardText (seatRequest 9 [2, 3]) = none ∧
      ((seatCall standardText .reserveSeats twoSeats (seatRequest 9 [2, 3])
          10 0 .done (Status.wrapped "")).error = none ↔
        ∀ id ∈ ([2, 3] : List UUID),
          Method.reserveSeats.Applies twoSeats 1 9 id) := by
  have constrained : Constrained twoSeats := by decide +kernel
  have accepted :
      validateSeatRequest standardText (seatRequest 9 [2, 3]) = none := by
    decide +kernel
  have exact_condition :=
    (@seat_calls_are_all_or_nothing standardText twoSeats
      (seatRequest 9 [2, 3]) .reserveSeats 10 0 .done (Status.wrapped "")
      constrained accepted).1
  exact ⟨constrained, accepted,
    exact_condition [2, 3] 1 9 (by decide +kernel) (by decide +kernel)
      (by decide +kernel) (by decide +kernel) rfl⟩

/-- A request for the available seat 2 that spells it as a URN. -/
def urnRequest : SeatRequest where
  eventId := standardString 1
  seatIds := [urnTag ++ standardString 2]
  orderId := standardString 9

/-- The spelling passes validation and Postgres refuses it, so an available
seat is not reserved; and when the reply to the commit is lost, the caller
gets an error although the seats have changed. -/
theorem available_seat_refused_and_error_after_commit :
    (Constrained twoSeats ∧
      validateSeatRequest urnText urnRequest = none ∧
      urnRequest.seatIds.mapM urnText.parse = some [2] ∧
      urnText.parse urnRequest.eventId = some 1 ∧
      urnText.parse urnRequest.orderId = some 9 ∧
      Method.reserveSeats.Applies twoSeats 1 9 2 ∧
      (seatCall urnText .reserveSeats twoSeats urnRequest 10 0 .done
        (Status.wrapped "")).error ≠ none) ∧
    validateSeatRequest standardText (seatRequest 9 [2]) = none ∧
      (seatCall standardText .reserveSeats twoSeats (seatRequest 9 [2]) 10 0
        .lost (Status.wrapped "could not commit transaction")).error ≠ none ∧
      (seatCall standardText .reserveSeats twoSeats (seatRequest 9 [2]) 10 0
        .lost (Status.wrapped "could not commit transaction")).db.status 2 =
          some .held ∧
      twoSeats.status 2 = some .available := by
  refine ⟨⟨by decide +kernel, by decide +kernel, by decide +kernel,
    by decide +kernel, by decide +kernel, ?_, by decide +kernel⟩,
    by decide +kernel, by decide +kernel, by decide +kernel,
    by decide +kernel⟩
  exact ⟨⟨2, 1, "Seat 1", .available, none⟩, by decide +kernel, rfl, rfl, rfl⟩

end TicketWave.Inventory
