import TicketWave.Inventory.Service

/-!
# A seat sells once

`Sales` ties the seat rows to the history of commits.
-/

namespace TicketWave.Inventory

open Library

variable {uuid : UuidText}

/-- The order and the time of the newest reservation that names the seat.
The history has its newest commit first. -/
def lastReservation : List Commit → UUID → Option (UUID × Nat)
  | [], _ => none
  | .call _ .reserveSeats order seats time :: older, seat =>
      if seat ∈ seats then some (order, time)
      else lastReservation older seat
  | _ :: older, seat => lastReservation older seat

/-- The successful `ConfirmSeats` calls that named the seat, each with its
order. -/
def confirmations : List Commit → UUID → List (Nat × UUID)
  | [], _ => []
  | .call task .confirmSeats order seats _ :: older, seat =>
      if seat ∈ seats then (task, order) :: confirmations older seat
      else confirmations older seat
  | _ :: older, seat => confirmations older seat

/-- The moves a seat can make in one step, its creation included. -/
inductive StatusMove : Option SeatStatus → Option SeatStatus → Prop
  | same (status : Option SeatStatus) : StatusMove status status
  | created : StatusMove none (some .available)
  | reserved : StatusMove (some .available) (some .held)
  | confirmed : StatusMove (some .held) (some .sold)
  | released : StatusMove (some .held) (some .available)

theorem StatusMove.of_method (method : Method) :
    StatusMove (some method.origin) (some method.target) := by
  cases method with
  | reserveSeats => exact .reserved
  | confirmSeats => exact .confirmed
  | releaseSeats => exact .released

theorem StatusMove.of_sold {status : Option SeatStatus}
    (move : StatusMove (some .sold) status) : status = some .sold := by
  cases move with
  | same => rfl

structure Sales (state : State uuid) : Prop where
  wellFormed : WellFormed state.db
  holder :
    ∀ {id row order}, state.db.seat id = some row →
      row.heldBy = some order →
        ∃ time, lastReservation state.history id = some (order, time)
  count :
    ∀ id, (confirmations state.history id).length =
      if state.db.status id = some .sold then 1 else 0
  owner :
    ∀ {id task order}, (task, order) ∈ confirmations state.history id →
      ∃ time, lastReservation state.history id = some (order, time)

theorem sales_empty : Sales (State.empty uuid) where
  wellFormed := wellFormed_empty
  holder := nofun
  count := by
    intro id
    rfl
  owner := nofun

variable {state next : State uuid} {order id : UUID} {db : Db} {row : SeatRow}
  {start : Nat}

theorem Sales.sold_of_confirmation {seat : UUID} {task : Nat}
    (sales : Sales state)
    (member : (task, order) ∈ confirmations state.history seat) :
    state.db.status seat = some .sold := by
  by_contra notSold
  have none := sales.count seat
  rw [if_neg notSold] at none
  rw [List.length_eq_zero_iff.mp none] at member
  cases member

theorem Sales.confirmation_unique {seat : UUID} {left right : Nat × UUID}
    (sales : Sales state) (leftMember : left ∈ confirmations state.history seat)
    (rightMember : right ∈ confirmations state.history seat) :
    left = right := by
  have one := sales.count seat
  rw [if_pos (sales.sold_of_confirmation leftMember)] at one
  obtain ⟨only, shape⟩ := List.length_eq_one_iff.mp one
  rw [shape] at leftMember rightMember
  exact (List.mem_singleton.mp leftMember).trans
    (List.mem_singleton.mp rightMember).symm

theorem statusMove_of_effect (wellFormed : WellFormed state.db)
    (effect : Effect state next) (id : UUID) :
    StatusMove (state.db.status id) (next.db.status id) := by
  cases effect with
  | nothing db _ =>
      rw [db]
      exact .same _
  | created committed _ =>
      rcases createEvent_seat committed id with
        kept | ⟨absent, row, found, status, _⟩
      · rw [Db.status, Db.status, kept]
        exact .same _
      · have before : state.db.status id = none := by
          rw [Db.status, absent, Option.map_none]
        have after : next.db.status id = some .available := by
          rw [Db.status, found, Option.map_some, status]
        rw [before, after]
        exact .created
  | @called task rowId method request start done committed db _ =>
      obtain ⟨origin, status⟩ :=
        transact_status wellFormed request.valid committed
      rw [db, status id]
      by_cases member : id ∈ done.seats
      · rw [if_pos member, origin id member]
        exact StatusMove.of_method method
      · rw [if_neg member]
        exact .same _
  | @swept task newId expired start committed _ =>
      have swept := sweepHolds_ok wellFormed committed
      rw [swept.status wellFormed id]
      by_cases freed : id ∈ freedIds state.db expired
      · have held : state.db.status id = some .held :=
          ((mem_freedIds_iff wellFormed).mp freed).2
        rw [if_pos freed, held]
        exact .released
      · rw [if_neg freed]
        exact .same _

theorem wellFormed_of_effect (wellFormed : WellFormed state.db)
    (effect : Effect state next) : WellFormed next.db := by
  cases effect with
  | nothing db _ =>
      rw [db]
      exact wellFormed
  | created committed _ => exact createEvent_wellFormed wellFormed committed
  | @called task rowId method request start done committed db _ =>
      rw [db]
      exact transact_wellFormed wellFormed request.valid committed
  | swept committed _ =>
      exact (sweepHolds_ok wellFormed committed).wellFormed wellFormed

theorem status_of_seat (found : db.seat id = some row) :
    db.status id = some row.status := by
  rw [Db.status, found, Option.map_some]

theorem status_of_holder (wellFormed : WellFormed db)
    (found : db.seat id = some row) (holds : row.heldBy = some order) :
    db.status id = some .held := by
  have stored : row ∈ db.seats := mem_of_lookup found
  have isHeld : row.heldBy.isSome := by
    rw [holds]
    rfl
  rw [status_of_seat found, (wellFormed.holder row stored).mp isHeld]

/-- After a committed call the holder of a seat is the order of the call, if
the call reserved it, and the old holder of an untouched seat otherwise. -/
theorem holder_of_transact {method : Method} {req : SeatRequest} {rowId : UUID}
    {done : Committed} (wellFormed : WellFormed db)
    (accepted : validateSeatRequest uuid req = none)
    (committed : transact uuid method db req rowId start = .ok done)
    (found : done.db.seat id = some row) (holds : row.heldBy = some order) :
    id ∈ done.seats ∧ method = .reserveSeats ∧ order = done.order ∨
      id ∉ done.seats ∧ db.seat id = some row := by
  have moved := (transact_ok wellFormed accepted committed).1
  rw [moved.seat (method.change_id done.order)] at found
  obtain ⟨old, oldFound, shape⟩ := Option.map_eq_some_iff.mp found
  by_cases member : id ∈ done.seats
  · rw [if_pos member] at shape
    left
    rw [← shape] at holds
    cases method with
    | reserveSeats => exact ⟨member, rfl, (Option.some.inj holds).symm⟩
    | confirmSeats => cases holds
    | releaseSeats => cases holds
  · rw [if_neg member] at shape
    right
    exact ⟨member, shape ▸ oldFound⟩

theorem sales_of_call {id : Nat} {rowId : UUID} {method : Method}
    {request : Accepted uuid} {done : Committed} (sales : Sales state)
    (committed :
      transact uuid method state.db request.req rowId start = .ok done)
    (db : next.db = done.db)
    (history :
      next.history =
        .call id method done.order done.seats state.clock :: state.history) :
    Sales next := by
  have wellFormed := sales.wellFormed
  have moved := (transact_ok wellFormed request.valid committed).1
  obtain ⟨origin, status⟩ := transact_status wellFormed request.valid committed
  refine ⟨?_, ?_, ?_, ?_⟩
  · rw [db]
    exact transact_wellFormed wellFormed request.valid committed
  · intro seat row order found holds
    rw [db] at found
    rw [history]
    rcases
        holder_of_transact wellFormed request.valid committed found holds with
      ⟨member, rfl, rfl⟩ | ⟨untouched, oldFound⟩
    · exact ⟨state.clock, by rw [lastReservation, if_pos member]⟩
    · obtain ⟨time, reserved⟩ := sales.holder oldFound holds
      refine ⟨time, ?_⟩
      cases method with
      | reserveSeats => rw [lastReservation, if_neg untouched, reserved]
      | confirmSeats => exact reserved
      | releaseSeats => exact reserved
  · intro seat
    have oldCount := sales.count seat
    rw [history, db, status seat]
    by_cases member : seat ∈ done.seats
    · -- a named seat was not sold before, so no confirmation is on record
      have notSold : state.db.status seat ≠ some .sold := by
        rw [origin seat member]
        cases method <;> decide
      rw [if_neg notSold] at oldCount
      cases method with
      | reserveSeats =>
          simpa [confirmations, member, Method.target] using oldCount
      | confirmSeats => simp [confirmations, member, Method.target, oldCount]
      | releaseSeats =>
          simpa [confirmations, member, Method.target] using oldCount
    · rw [if_neg member, ← oldCount]
      cases method <;> simp [confirmations, member]
  · intro seat task order member
    rw [history] at member ⊢
    cases method with
    | reserveSeats =>
        -- a reserved seat has never been confirmed
        have oldMember : (task, order) ∈ confirmations state.history seat :=
          member
        by_cases named : seat ∈ done.seats
        · have oldCount := sales.count seat
          rw [origin seat named, if_neg (by decide)] at oldCount
          rw [List.length_eq_zero_iff.mp oldCount] at oldMember
          cases oldMember
        · rw [lastReservation, if_neg named]
          exact sales.owner oldMember
    | confirmSeats =>
        by_cases named : seat ∈ done.seats
        · rw [confirmations, if_pos named] at member
          rcases List.mem_cons.mp member with equal | oldMember
          · cases equal
            obtain ⟨row, found, source⟩ := moved.before seat named
            exact sales.holder found source.2
          · exact sales.owner oldMember
        · rw [confirmations, if_neg named] at member
          exact sales.owner member
    | releaseSeats => exact sales.owner member

theorem sales_of_sweep {id : Nat} {newId : UUID → UUID} {expired : List UUID}
    (sales : Sales state)
    (committed : sweepHolds uuid state.db expired newId start = .ok next.db)
    (history :
      next.history =
        .sweep id (freedIds state.db expired) state.clock :: state.history) :
    Sales next := by
  have wellFormed := sales.wellFormed
  have swept := sweepHolds_ok wellFormed committed
  refine ⟨swept.wellFormed wellFormed, ?_, ?_, ?_⟩
  · intro seat row order found holds
    rw [swept.seat] at found
    obtain ⟨old, oldFound, shape⟩ := Option.map_eq_some_iff.mp found
    rw [history]
    by_cases freed : sweepable expired old
    · rw [if_pos freed] at shape
      rw [← shape] at holds
      cases holds
    · rw [if_neg freed] at shape
      exact sales.holder (shape ▸ oldFound) holds
  · intro seat
    have oldCount := sales.count seat
    rw [history, swept.status wellFormed seat]
    by_cases freed : seat ∈ freedIds state.db expired
    · have held := ((mem_freedIds_iff wellFormed).mp freed).2
      rw [held, if_neg (by decide)] at oldCount
      rw [if_pos freed, if_neg (by decide)]
      exact oldCount
    · rw [if_neg freed]
      exact oldCount
  · intro seat task order member
    rw [history] at member ⊢
    exact sales.owner member

theorem sales_of_effect (sales : Sales state) (effect : Effect state next) :
    Sales next := by
  cases effect with
  | nothing db history =>
      refine ⟨?_, ?_, ?_, ?_⟩
      · rw [db]
        exact sales.wellFormed
      · rw [db, history]
        exact sales.holder
      · rw [db, history]
        exact sales.count
      · rw [history]
        exact sales.owner
  | created committed history =>
      refine ⟨createEvent_wellFormed sales.wellFormed committed, ?_, ?_, ?_⟩
      · intro id row order found holds
        rw [history]
        rcases createEvent_seat committed id with
          kept | ⟨_, new, newFound, _, free⟩
        · exact sales.holder (kept ▸ found) holds
        · rw [newFound] at found
          cases found
          rw [free] at holds
          cases holds
      · intro id
        have oldCount := sales.count id
        rw [history]
        rcases createEvent_seat committed id with
          kept | ⟨absent, new, newFound, status, _⟩
        · rw [Db.status, kept]
          exact oldCount
        · have before : state.db.status id = none := by
            rw [Db.status, absent, Option.map_none]
          rw [before, if_neg (by decide)] at oldCount
          rw [status_of_seat newFound, status, if_neg (by decide)]
          exact oldCount
      · rw [history]
        exact sales.owner
  | called committed db history =>
      exact sales_of_call sales committed db history
  | swept committed history => exact sales_of_sweep sales committed history

theorem sales_of_run {labels : List Label} {final : State uuid}
    (sales : Sales state) (ran : run step state labels = some final) :
    Sales final :=
  invariant_of_run
    (fun kept stepped =>
      sales_of_effect kept (transition_of_step stepped).effect)
    sales ran

theorem sold_of_run {labels : List Label} {final : State uuid}
    (wellFormed : WellFormed state.db) (sold : state.db.status id = some .sold)
    (ran : run step state labels = some final) :
    final.db.status id = some .sold := by
  let kept : State uuid → Prop := fun state =>
    WellFormed state.db ∧ state.db.status id = some .sold
  have preserved :
      ∀ {before after : State uuid} {label : Label},
        kept before → step before label = some after → kept after := by
    intro before after label held stepped
    have effect := (transition_of_step stepped).effect
    have move := statusMove_of_effect held.1 effect id
    rw [held.2] at move
    exact ⟨wellFormed_of_effect held.1 effect, move.of_sold⟩
  have atEnd : kept final := invariant_of_run preserved ⟨wellFormed, sold⟩ ran
  exact atEnd.2

/-- A seat sells once. -/
theorem seat_sells_once {labels : List Label} {state : State uuid}
    (ran : run step (State.empty uuid) labels = some state) :
    (∀ label next, step state label = some next →
      ∀ seat, StatusMove (state.db.status seat) (next.db.status seat)) ∧
    (∀ later final, run step state later = some final →
      ∀ seat, state.db.status seat = some .sold →
        final.db.status seat = some .sold) ∧
    (∀ seat, (confirmations state.history seat).length ≤ 1) ∧
    (∀ seat task order,
      (task, order) ∈ confirmations state.history seat →
        ∃ time, lastReservation state.history seat = some (order, time)) := by
  have sales := sales_of_run sales_empty ran
  refine ⟨?_, ?_, ?_, ?_⟩
  · intro label next stepped seat
    exact statusMove_of_effect sales.wellFormed
      (transition_of_step stepped).effect seat
  · intro later final ranLater seat sold
    exact sold_of_run sales.wellFormed sold ranLater
  · intro seat
    rw [sales.count seat]
    split <;> decide
  · intro seat task order member
    exact sales.owner member

-- A sale: an event with two seats, of which order 9 reserves and confirms the
-- first while order 8 tries for both.
/-- A request for seats of event 1, in the canonical spelling. -/
def seatRequest (order : UUID) (seats : List UUID) : SeatRequest where
  eventId := standardString 1
  seatIds := seats.map standardString
  orderId := standardString order

private def saleLabels : List Label :=
  [.createEvent ⟨"Concert", 2⟩ 1 [2, 3],
    .beginCall .reserveSeats (seatRequest 9 [2]),
    .beginCall .reserveSeats (seatRequest 8 [2, 3]),
    .commitCall 0 10, .commitCall 1 11,
    .redis 0 true, .reply 0,
    .beginCall .confirmSeats (seatRequest 9 [2]), .commitCall 2 12]

theorem seat_sells_once_in_a_sale :
    ∃ state : State standardText,
      run step (State.empty standardText) saleLabels = some state ∧
        state.db.status 2 = some .sold ∧
        confirmations state.history 2 = [(2, 9)] ∧
        ∃ time, lastReservation state.history 2 = some (9, time) := by
  have ends :
      (run step (State.empty standardText) saleLabels).any
          (fun state =>
            decide
              (state.db.status 2 = some .sold ∧
                confirmations state.history 2 = [(2, 9)])) = true := by
    decide +kernel
  obtain ⟨state, ran, checked⟩ := (Option.any_eq_true _ _).mp ends
  obtain ⟨sold, confirmed⟩ := of_decide_eq_true checked
  have owner := (seat_sells_once ran).2.2.2
  refine ⟨state, ran, sold, confirmed, owner 2 2 9 ?_⟩
  rw [confirmed]
  exact List.mem_singleton_self (2, 9)

end TicketWave.Inventory
