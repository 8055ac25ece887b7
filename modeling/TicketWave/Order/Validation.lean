import TicketWave.Inventory.Transactions
import TicketWave.Order.Trail

/-!
# Accepted orders and inventory

What order-svc accepts inventory-svc accepts too.
-/

namespace TicketWave.Order

open Library

variable {uuid : UuidText}

theorem validateSeatRequest_of_accepted
    (request : Accepted uuid) (orderId : UUID) :
    Inventory.validateSeatRequest uuid
        ⟨request.req.eventId, request.req.seatIds, uuid.string orderId⟩ =
      none := by
  obtain ⟨_, event, seats, _⟩ :=
    validateCreateOrder_eq_none_iff.mp request.valid
  have order : (uuid.parse (uuid.string orderId)).isSome := by
    rw [uuid.parse_string]
    rfl
  exact Inventory.validateSeatRequest_eq_none_iff.mpr ⟨event, order, seats⟩

theorem validateSeatRequest_of_call
    {run : Run uuid} {method : Inventory.Method} {req : Inventory.SeatRequest}
    (calls : run.call = some (.seats method req)) :
    Inventory.validateSeatRequest uuid req = none := by
  rw [run.seatRequest_of_call calls]
  exact validateSeatRequest_of_accepted run.request run.orderId

/-- A seat request that the entry says was sent is well-formed. -/
def Entry.WellFormed (uuid : UuidText) (entry : Entry) : Prop :=
  ∀ method req, entry.action = .invoked (.seats method req) →
    Inventory.validateSeatRequest uuid req = none

theorem wellFormed_of_transition {state next : State uuid} {label : Label}
    (wellFormed : ∀ entry ∈ state.log, entry.WellFormed uuid)
    (transition : Transition state label next) :
    ∀ entry ∈ next.log, entry.WellFormed uuid := by
  cases transition with
  | refused => exact wellFormed
  | started request orderId => exact wellFormed
  | @performed id outcome rowId now run performed running done =>
      intro entry member
      rcases List.mem_append.mp member with new | old
      · obtain ⟨action, acted, rfl⟩ := List.mem_map.mp new
        rintro method req sent
        have isAction : action = .invoked (.seats method req) := sent
        subst isAction
        cases effect_of_perform done with
        | inserted => simp at acted
        | moved => simp at acted
        | duplicate => simp at acted
        | nothing => simp at acted
      · exact wellFormed entry old
  | invoked running calls unsent =>
      intro entry member
      rcases List.mem_cons.mp member with rfl | old
      · rintro method req ⟨⟩
        exact validateSeatRequest_of_call calls
      · exact wellFormed entry old
  | answered running calls sent =>
      intro entry member
      rcases List.mem_cons.mp member with rfl | old
      · rintro method req ⟨⟩
      · exact wellFormed entry old
  | crashed running => exact wellFormed

theorem wellFormed_of_run {labels : List Label} {state : State uuid}
    (reached : run step (State.empty uuid) labels = some state) :
    ∀ entry ∈ state.log, entry.WellFormed uuid := by
  apply invariant_of_run
    (fun wellFormed stepped =>
      wellFormed_of_transition wellFormed (transition_of_step stepped))
    ?_ reached
  intro entry member
  cases member

/-- An order that order-svc accepts is well-formed for inventory-svc. -/
theorem accepted_orders_are_well_formed_for_inventory (uuid : UuidText) :
    (∀ req : CreateOrderRequest,
      validateCreateOrder uuid req = none ↔
        (uuid.parse req.userId).isSome ∧ (uuid.parse req.eventId).isSome ∧
          SeatList uuid req.seatIds ∧
          (0 < req.amountCents ∧ req.amountCents ≤ maxAmountCents) ∧
          validIdempotencyKey req.idempotencyKey = true) ∧
      (∀ req : Inventory.SeatRequest,
        Inventory.validateSeatRequest uuid req = none ↔
          (uuid.parse req.eventId).isSome ∧
            (uuid.parse req.orderId).isSome ∧ SeatList uuid req.seatIds) ∧
      (∀ (run : Run uuid) (method : Inventory.Method)
          (req : Inventory.SeatRequest),
        run.call = some (.seats method req) →
          Inventory.validateSeatRequest uuid req = none) ∧
      ∀ (labels : List Label) (state : State uuid),
        run step (State.empty uuid) labels = some state →
          ∀ entry ∈ state.log, ∀ method req,
            entry.action = .invoked (.seats method req) →
              Inventory.validateSeatRequest uuid req = none := by
  refine ⟨fun _ => validateCreateOrder_eq_none_iff,
    fun _ => Inventory.validateSeatRequest_eq_none_iff,
    fun _ _ _ calls => validateSeatRequest_of_call calls, ?_⟩
  intro labels state reached entry member
  exact wellFormed_of_run reached entry member

-- An order of two seats, one of them written in capitals.
private def capitalRequest : CreateOrderRequest where
  userId := "00000000-0000-0000-0000-000000000001"
  eventId := "00000000-0000-0000-0000-000000000002"
  seatIds :=
    ["00000000-0000-0000-0000-00000000000A",
      "00000000-0000-0000-0000-00000000000b"]
  amountCents := 2500
  idempotencyKey := ""

theorem accepted_order_of_two_seats_is_well_formed :
    ∃ valid : validateCreateOrder standardText capitalRequest = none,
      Inventory.validateSeatRequest standardText
          ((⟨⟨capitalRequest, valid⟩, 7, .confirming, false⟩ :
            Run standardText).order.seatRequest standardText) =
        none := by
  have valid : validateCreateOrder standardText capitalRequest = none := by
    decide +kernel
  obtain ⟨_, _, called, _⟩ :=
    accepted_orders_are_well_formed_for_inventory standardText
  exact ⟨valid,
    called ⟨⟨capitalRequest, valid⟩, 7, .confirming, false⟩ .confirmSeats _
      rfl⟩

end TicketWave.Order
