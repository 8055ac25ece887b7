import TicketWave.Saga.System

/-!
# Safety of the saga

`Linked`: every successful reply in the log of order-svc was given by the
service that was called, and only order-svc asks to confirm or charge for an
order of ours.
-/

namespace TicketWave.Saga

open Library

variable {uuid : UuidText} {ours : UUID → Bool}

/-- order-svc by itself; its orders have IDs of ours. -/
structure OrderSide (ours : UUID → Bool) (state : Order.State uuid) :
    Prop where
  ledger : Order.Ledger state
  trail : Order.Trail state
  runs : ∀ {id run}, state.runs.get id = some run → ours run.orderId = true
  rows : ∀ row ∈ state.db.orders, ours row.id = true

/-- The other two services, each with the calls that were sent to it. -/
structure ServiceSide (system : System uuid) : Prop where
  sales : Inventory.Sales system.inventory
  traced : system.inventory.Traced system.seatCalls
  accounted : Payment.Accounted uuid system.chargeCalls system.payment

/-- How often `Charge` was sent for the order, by the log. -/
def chargeEntries (log : List Order.Entry) (order : UUID) : Nat :=
  log.countP fun entry => decide (entry.orderId = order) && entry.isCharge

/-- How often `Charge` was sent for the order, by the calls that went out. -/
def chargeMessages
    (uuid : UuidText) (wire : List Message) (order : UUID) : Nat :=
  (wire.filterMap Message.chargeCall).countP fun call =>
    Payment.charges uuid order call.req

/-- What passed between the services. -/
structure Exchange (ours : UUID → Bool) (system : System uuid) : Prop where
  confirms :
    ∀ message ∈ system.wire, ∀ req order,
      message.call = .seats .confirmSeats req →
        uuid.column req.orderId = some order → ours order = true →
          ∃ entry ∈ system.order.log,
            entry.isConfirm = true ∧ entry.orderId = order
  charges :
    ∀ order, ours order = true →
      chargeMessages uuid system.wire order ≤
        chargeEntries system.order.log order
  replies :
    ∀ entry ∈ system.order.log, ∀ call,
      entry.action = .received call none →
        ∃ number, ⟨some entry.run, call, number⟩ ∈ system.wire ∧
          system.hasAnswered number none call = true

structure Linked (ours : UUID → Bool) (system : System uuid) : Prop where
  orderSide : OrderSide ours system.order
  serviceSide : ServiceSide system
  exchange : Exchange ours system

theorem linked_empty : Linked ours (System.empty uuid) where
  orderSide := by
    refine ⟨Order.ledger_empty, Order.trail_empty, ?_, ?_⟩
    · intro id run found
      cases found
    · intro row member
      cases member
  serviceSide :=
    ⟨Inventory.sales_empty, Inventory.traced_empty, Payment.accounted_empty⟩
  exchange := by
    constructor
    · intro message member
      cases member
    · intro order _
      exact Nat.le_refl 0
    · intro entry member
      cases member

section Step

variable {system next : System uuid} {label : Label}

theorem orderSide_of_transition {state after : Order.State uuid}
    {label : Order.Label} (side : OrderSide ours state)
    (start : ∀ req orderId, label = .start req orderId → ours orderId = true)
    (transition : Order.Transition state label after) :
    OrderSide ours after := by
  refine ⟨Order.ledger_of_transition side.ledger transition,
    Order.trail_of_transition side.ledger side.trail transition, ?_, ?_⟩
  · intro id run found
    cases transition with
    | refused => exact side.runs found
    | started request orderId =>
        rcases Registry.cases_of_get_launch found with ⟨_, rfl⟩ | stored
        · exact start _ orderId rfl
        · exact side.runs stored
    | crashed => exact side.runs (Registry.get_of_get_finish found).2
    | performed running =>
        rcases Registry.cases_of_get_put found with ⟨_, rfl⟩ | ⟨_, stored⟩
        · have before := side.runs running
          exact before
        · exact side.runs stored
    | invoked running =>
        rcases Registry.cases_of_get_put found with ⟨_, rfl⟩ | ⟨_, stored⟩
        · have before := side.runs running
          exact before
        · exact side.runs stored
    | answered running =>
        rcases Registry.cases_of_get_put found with ⟨_, rfl⟩ | ⟨_, stored⟩
        · have before := side.runs running
          exact before
        · exact side.runs stored
  · intro row member
    rcases Order.row_of_transition transition member with
      stored | ⟨_, _, _, running, same⟩ |
        ⟨_, run, _, _, _, _, running, _, _, old, stored, _, shape⟩
    · exact side.rows row stored
    · rw [same]
      exact side.runs running
    · rw [shape]
      exact side.rows old stored

theorem chargeEntries_mono
    {state after : Order.State uuid} {label : Order.Label}
    (transition : Order.Transition state label after) (order : UUID) :
    chargeEntries state.log order ≤ chargeEntries after.log order := by
  rcases Order.log_of_transition transition with
    same | ⟨_, _, _, _, grown, _⟩
  · rw [same]
  · rw [grown, chargeEntries, chargeEntries, List.countP_cons]
    exact Nat.le_add_right _ _

theorem exchange_of_order {label : Order.Label} {order : Order.State uuid}
    (exchange : Exchange ours system)
    (transition : Order.Transition system.order label order)
    (answered :
      ∀ id call, label = .answer id none →
        (∃ run, system.order.runs.get id = some run ∧ run.call = some call) →
        ∃ number, ⟨some id, call, number⟩ ∈ system.wire ∧
          system.hasAnswered number none call = true) :
    Exchange ours { system with order := order } where
  confirms := by
    intro message member req id calls read isOurs
    obtain ⟨entry, logged, facts⟩ :=
      exchange.confirms message member req id calls read isOurs
    exact ⟨entry, Order.mem_log_of_transition transition logged, facts⟩
  charges := by
    intro id isOurs
    exact Nat.le_trans (exchange.charges id isOurs)
      (chargeEntries_mono transition id)
  replies := by
    intro entry member call received
    rcases Order.received_of_transition transition member received with
      old | ⟨answers, running⟩
    · exact exchange.replies entry old call received
    · exact answered entry.run call answers running

/-- A service serves its calls: it answers more, and that is all the others
see. -/
theorem exchange_of_service {inventory : Inventory.State uuid}
    {payment : Payment.State} (exchange : Exchange ours system)
    (seats : ∀ answer ∈ system.inventory.answers, answer ∈ inventory.answers)
    (charges : ∀ answer ∈ system.payment.answers, answer ∈ payment.answers) :
    Exchange ours
      { system with inventory := inventory, payment := payment } where
  confirms := exchange.confirms
  charges := exchange.charges
  replies := by
    intro entry member call received
    obtain ⟨number, message, answered⟩ :=
      exchange.replies entry member call received
    refine ⟨number, message, ?_⟩
    cases call with
    | seats => exact decide_eq_true (seats _ (of_decide_eq_true answered))
    | charge => exact decide_eq_true (charges _ (of_decide_eq_true answered))

theorem exchange_of_wire {message : Message} (exchange : Exchange ours system)
    (confirm :
      ∀ req order, message.call = .seats .confirmSeats req →
        uuid.column req.orderId = some order → ours order = true →
          ∃ entry ∈ system.order.log,
            entry.isConfirm = true ∧ entry.orderId = order)
    (charges :
      ∀ order, ours order = true →
        chargeMessages uuid (message :: system.wire) order ≤
          chargeEntries system.order.log order) :
    Exchange ours { system with wire := message :: system.wire } where
  confirms := by
    intro other member req order calls read isOurs
    rcases List.mem_cons.mp member with rfl | earlier
    · exact confirm req order calls read isOurs
    · exact exchange.confirms other earlier req order calls read isOurs
  charges := charges
  replies := by
    intro entry member call received
    obtain ⟨number, sent, answered⟩ :=
      exchange.replies entry member call received
    exact ⟨number, List.mem_cons_of_mem _ sent, answered⟩

variable {run : Option Nat} {call : Order.Call}

theorem exchange_of_delivered (delivered : Delivered system run call next)
    (exchange :
      ∀ number,
        Exchange ours
          { system with wire := ⟨run, call, number⟩ :: system.wire }) :
    Exchange ours next := by
  cases delivered with
  | seats transition =>
      exact exchange_of_service (exchange _)
        (fun _ member => Inventory.answers_of_transition transition member)
        fun _ member => member
  | charge transition =>
      exact exchange_of_service (exchange _) (fun _ member => member)
        fun _ member => Payment.answers_of_transition transition member

theorem serviceSide_of_delivered (side : ServiceSide system)
    (delivered : Delivered system run call next) : ServiceSide next := by
  cases delivered with
  | seats transition =>
      exact ⟨Inventory.sales_of_effect side.sales transition.effect,
        Inventory.traced_of_transition side.traced side.sales.wellFormed
          transition,
        side.accounted⟩
  | charge transition =>
      exact ⟨side.sales, side.traced,
        Payment.accounted_of_transition side.accounted transition⟩

theorem orderSide_of_delivered (delivered : Delivered system run call next) :
    next.order = system.order := by
  cases delivered <;> rfl

def Message.charges (uuid : UuidText) (order : UUID) (message : Message) :
    Bool :=
  match message.call with
  | .seats _ _ => false
  | .charge req => Payment.charges uuid order req

theorem chargeMessages_cons
    (message : Message) (wire : List Message) (order : UUID) :
    chargeMessages uuid (message :: wire) order =
      chargeMessages uuid wire order +
        if message.charges uuid order then 1 else 0 := by
  obtain ⟨run, call, number⟩ := message
  cases call with
  | seats => rfl
  | charge req => exact List.countP_cons

/-- Other clients neither confirm nor charge an order of ours. -/
theorem exchange_of_client {number : Nat} (exchange : Exchange ours system)
    (permitted : allowed ours uuid call = true) :
    Exchange ours
      { system with wire := ⟨none, call, number⟩ :: system.wire } := by
  have stranger :
      ∀ {text : String} {order : UUID}, foreign ours uuid text = true →
        uuid.column text = some order → ours order = false := by
    intro text order isForeign read
    unfold foreign at isForeign
    rw [read] at isForeign
    simpa using isForeign
  apply exchange_of_wire exchange
  · intro req order calls read isOurs
    cases calls
    rw [stranger permitted read] at isOurs
    cases isOurs
  · intro order isOurs
    rw [chargeMessages_cons]
    have none : Message.charges uuid order ⟨none, call, number⟩ = false := by
      cases call with
      | seats => rfl
      | charge req =>
          apply decide_eq_false
          intro read
          rw [stranger permitted read] at isOurs
          cases isOurs
    rw [none]
    exact exchange.charges order isOurs

theorem exchange_of_send {id : Nat} {run : Order.Run uuid}
    {order : Order.State uuid} (exchange : Exchange ours system)
    (running : system.order.runs.get id = some run)
    (calls : run.call = some call)
    (transition : Order.Transition system.order (.invoke id) order)
    (number : Nat) :
    Exchange ours
      { system with
        order := order
        wire := ⟨some id, call, number⟩ :: system.wire } := by
  have logged :
      order.log = run.entry id (.invoked call) :: system.order.log := by
    cases transition with
    | invoked found sends _ =>
        rw [running] at found
        cases found
        rw [calls] at sends
        cases sends
        rfl
  have invoked : Exchange ours { system with order := order } :=
    exchange_of_order exchange transition fun _ _ answers => nomatch answers
  apply exchange_of_wire invoked
  · intro req orderId isConfirm read _
    cases isConfirm
    have request := Order.Run.seatRequest_of_call calls
    rw [request] at read
    have same : run.orderId = orderId :=
      Option.some.inj ((uuid.column_string run.orderId).symm.trans read)
    refine ⟨run.entry id (.invoked (.seats .confirmSeats req)), ?_, rfl, same⟩
    rw [logged]
    exact List.mem_cons_self
  · intro orderId isOurs
    have before := exchange.charges orderId isOurs
    have counted :
        Message.charges uuid orderId ⟨some id, call, number⟩ =
          (decide (run.orderId = orderId) &&
            (run.entry id (.invoked call)).isCharge) := by
      cases call with
      | seats => exact (Bool.and_false _).symm
      | charge req =>
          have request := Order.Run.chargeRequest_of_call calls
          have read : uuid.column req.orderId = some run.orderId := by
            rw [request]
            exact uuid.column_string run.orderId
          have isCharge :
              (run.entry id (.invoked (.charge req))).isCharge = true :=
            rfl
          rw [isCharge, Bool.and_true]
          show decide (uuid.column req.orderId = some orderId) = _
          rw [read]
          simp
    rw [chargeMessages_cons, counted]
    show
      chargeMessages uuid system.wire orderId + _ ≤
        chargeEntries order.log orderId
    rw [logged, chargeEntries, List.countP_cons]
    exact Nat.add_le_add_right before _

theorem linked_of_transition (linked : Linked ours system)
    (transition : Transition ours system label next) : Linked ours next := by
  have orderSide := linked.orderSide
  have serviceSide := linked.serviceSide
  have exchange := linked.exchange
  cases transition with
  | order own moved =>
      refine ⟨orderSide_of_transition orderSide ?_ moved,
        ⟨serviceSide.sales, serviceSide.traced, serviceSide.accounted⟩,
        exchange_of_order exchange moved ?_⟩
      · rintro req orderId rfl
        exact own
      · rintro id call rfl
        cases own
  | inventory own moved =>
      have traced :=
        Inventory.traced_of_transition serviceSide.traced
          serviceSide.sales.wellFormed moved
      rw [Inventory.Label.sends_eq_nil own, List.nil_append] at traced
      exact ⟨orderSide,
        ⟨Inventory.sales_of_effect serviceSide.sales moved.effect, traced,
          serviceSide.accounted⟩,
        exchange_of_service exchange
          (fun _ member => Inventory.answers_of_transition moved member)
          fun _ member => member⟩
  | payment own moved =>
      have accounted :=
        Payment.accounted_of_transition serviceSide.accounted moved
      rw [Payment.Label.sends_eq_nil own, List.nil_append] at accounted
      exact ⟨orderSide,
        ⟨serviceSide.sales, serviceSide.traced, accounted⟩,
        exchange_of_service exchange (fun _ member => member)
          fun _ member => Payment.answers_of_transition moved member⟩
  | client permitted delivered =>
      refine ⟨?_, serviceSide_of_delivered serviceSide delivered, ?_⟩
      · rw [orderSide_of_delivered delivered]
        exact orderSide
      · exact exchange_of_delivered delivered fun _ =>
          exchange_of_client exchange permitted
  | sent running calls moved delivered =>
      refine ⟨?_, serviceSide_of_delivered ?_ delivered, ?_⟩
      · rw [orderSide_of_delivered delivered]
        exact orderSide_of_transition orderSide
          (by intro _ _ starts; cases starts) moved
      · exact ⟨serviceSide.sales, serviceSide.traced, serviceSide.accounted⟩
      · have logged := exchange_of_send exchange running calls moved
        exact exchange_of_delivered delivered logged
  | received running calls message answered moved =>
      refine ⟨orderSide_of_transition orderSide
          (by intro _ _ starts; cases starts) moved,
        ⟨serviceSide.sales, serviceSide.traced, serviceSide.accounted⟩,
        exchange_of_order exchange moved ?_⟩
      rintro id call ⟨⟩ ⟨other, found, sends⟩
      rw [running] at found
      cases found
      rw [calls] at sends
      cases sends
      exact ⟨_, message, answered⟩
  | broken moved =>
      refine ⟨orderSide_of_transition orderSide
          (by intro _ _ starts; cases starts) moved,
        ⟨serviceSide.sales, serviceSide.traced, serviceSide.accounted⟩,
        exchange_of_order exchange moved ?_⟩
      rintro id call ⟨⟩

end Step

theorem linked_of_run {labels : List Label} {system final : System uuid}
    (linked : Linked ours system)
    (ran : run (step ours) system labels = some final) : Linked ours final :=
  invariant_of_run
    (fun kept stepped => linked_of_transition kept (transition_of_step stepped))
    linked ran

/-- The seat was sold by the `ConfirmSeats` call that the order's own run
sent. -/
def SoldThrough
    (system : System uuid) (row : Order.OrderRow) (seat : UUID) : Prop :=
  ∃ entry ∈ system.order.log,
    entry.action = .inserted ∧ entry.orderId = row.id ∧
      ∃ number,
        ⟨some entry.run,
            .seats .confirmSeats (entry.order.seatRequest uuid), number⟩ ∈
          system.wire ∧
        (number, row.id) ∈ Inventory.confirmations system.inventory.history seat

section Results

variable {system : System uuid} {row : Order.OrderRow}

theorem sold_of_confirmed {seat : UUID} (linked : Linked ours system)
    (stored : row ∈ system.order.db.orders)
    (confirmed : row.status = .confirmed) (ordered : seat ∈ row.seatIds) :
    SoldThrough system row seat := by
  have ledger := linked.orderSide.ledger
  obtain ⟨entry, logged, same, stores, sale⟩ :=
    linked.orderSide.trail.confirmed row stored confirmed
  have reply := sale (entry.order.confirmed uuid) List.mem_cons_self
  obtain ⟨number, message, answered⟩ := linked.exchange.replies _ reply _ rfl
  have sent :
      ⟨number, .confirmSeats, entry.order.seatRequest uuid⟩ ∈
        system.seatCalls :=
    List.mem_filterMap.mpr ⟨_, message, rfl⟩
  obtain ⟨order, seats, time, readOrder, readSeats, commit⟩ :=
    linked.serviceSide.traced.commit_of_granted sent
      (of_decide_eq_true answered)
  have isOrder : order = row.id := by
    have written : uuid.column (uuid.string entry.orderId) = some order :=
      readOrder
    rw [uuid.column_string, same] at written
    exact (Option.some.inj written).symm
  have isSeats : seats = row.seatIds :=
    Option.some.inj (readSeats.symm.trans stores.seats)
  subst isOrder isSeats
  exact ⟨_, ledger.origin entry logged, rfl, same, number, message,
    Inventory.mem_confirmations_iff.mpr ⟨_, time, commit, ordered⟩⟩

theorem paid_of_confirmed (linked : Linked ours system)
    (stored : row ∈ system.order.db.orders)
    (confirmed : row.status = .confirmed) :
    ∃ payment,
      Payment.successes system.payment.payments row.id = [payment] ∧
        payment.amountCents = row.amountCents := by
  have accounted := linked.serviceSide.accounted
  have isOurs := linked.orderSide.rows row stored
  obtain ⟨entry, logged, same, stores, sale⟩ :=
    linked.orderSide.trail.confirmed row stored confirmed
  have reply :=
    sale (entry.order.charged uuid)
      (List.mem_cons_of_mem _ List.mem_cons_self)
  obtain ⟨number, message, answered⟩ := linked.exchange.replies _ reply _ rfl
  have sent :
      ⟨number, entry.order.chargeRequest uuid⟩ ∈ system.chargeCalls :=
    List.mem_filterMap.mpr ⟨_, message, rfl⟩
  obtain ⟨payment, recorded, settles⟩ :=
    accounted.row_of_success sent (of_decide_eq_true answered)
  have isOrder : payment.orderId = row.id := by
    have written :
        uuid.column (uuid.string entry.orderId) = some payment.orderId :=
      settles.order
    rw [uuid.column_string, same] at written
    exact (Option.some.inj written).symm
  have member : payment ∈ Payment.successes system.payment.payments row.id :=
    List.mem_filter.mpr
      ⟨recorded, decide_eq_true ⟨isOrder, settles.status⟩⟩
  have atMostOne :
      (Payment.successes system.payment.payments row.id).length ≤ 1 := by
    calc
      (Payment.successes system.payment.payments row.id).length
      _ ≤ (Payment.paymentsOf system.payment.payments row.id).length :=
          Payment.successes_length_le _ _
      _ ≤ chargeMessages uuid system.wire row.id :=
          Nat.le_of_add_right_le (accounted.counted row.id)
      _ ≤ chargeEntries system.order.log row.id :=
          linked.exchange.charges row.id isOurs
      _ ≤ 1 := Order.charges_of_order linked.orderSide.ledger row.id
  obtain ⟨only, shape⟩ :=
    List.length_eq_one_iff.mp
      (Nat.le_antisymm atMostOne (List.length_pos_of_mem member))
  rw [shape] at member
  have isOnly : payment = only := List.mem_singleton.mp member
  refine ⟨only, shape, ?_⟩
  rw [← isOnly]
  exact settles.amount.trans stores.amount

theorem unfailed_of_confirmation
    {seat order : UUID} {number : Nat} (linked : Linked ours system)
    (sold :
      (number, order) ∈ Inventory.confirmations system.inventory.history seat)
    (stored : row ∈ system.order.db.orders) (same : row.id = order) :
    row.status ≠ .failed := by
  have isOurs := linked.orderSide.rows row stored
  rw [same] at isOurs
  obtain ⟨seats, time, commit, _⟩ := Inventory.mem_confirmations_iff.mp sold
  obtain ⟨req, sent, read, _⟩ := linked.serviceSide.traced.commits commit
  obtain ⟨message, out, isCall⟩ := List.mem_filterMap.mp sent
  have calls : message.call = .seats .confirmSeats req := by
    unfold Message.seatCall at isCall
    split at isCall
    · rename_i method request call
      cases isCall
      exact call
    · cases isCall
  obtain ⟨entry, logged, isConfirm, about⟩ :=
    linked.exchange.confirms message out req order calls read isOurs
  exact linked.orderSide.trail.unfailed entry logged isConfirm row stored
    (same.trans about.symm)

end Results

/-- The saga is safe: confirmed orders are sold and paid once, they share no
seat, and nothing is sold through a failed order. -/
theorem saga_is_safe {labels : List Label} {system : System uuid}
    (ran : run (step ours) (System.empty uuid) labels = some system) :
    (∀ row ∈ system.order.db.orders, row.status = .confirmed →
      (∀ seat ∈ row.seatIds,
        system.inventory.db.status seat = some .sold ∧
          SoldThrough system row seat) ∧
        ∃ payment,
          Payment.successes system.payment.payments row.id = [payment] ∧
            payment.amountCents = row.amountCents) ∧
    (∀ left ∈ system.order.db.orders, ∀ right ∈ system.order.db.orders,
      left.status = .confirmed → right.status = .confirmed →
        ∀ seat ∈ left.seatIds, seat ∈ right.seatIds → left = right) ∧
    (∀ seat number order,
      (number, order) ∈
          Inventory.confirmations system.inventory.history seat →
        ∀ row ∈ system.order.db.orders, row.id = order →
          row.status ≠ .failed) := by
  have linked := linked_of_run linked_empty ran
  have sales := linked.serviceSide.sales
  refine ⟨?_, ?_, ?_⟩
  · intro row stored confirmed
    refine ⟨?_, paid_of_confirmed linked stored confirmed⟩
    intro seat ordered
    have through := sold_of_confirmed linked stored confirmed ordered
    have isSold : system.inventory.db.status seat = some .sold := by
      obtain ⟨_, _, _, _, _, _, member⟩ := through
      exact sales.sold_of_confirmation member
    exact ⟨isSold, through⟩
  · intro left leftStored right rightStored leftConfirmed rightConfirmed seat
      leftOrdered rightOrdered
    obtain ⟨_, _, _, _, _, _, leftSold⟩ :=
      sold_of_confirmed linked leftStored leftConfirmed leftOrdered
    obtain ⟨_, _, _, _, _, _, rightSold⟩ :=
      sold_of_confirmed linked rightStored rightConfirmed rightOrdered
    have same := sales.confirmation_unique leftSold rightSold
    exact
      row_unique linked.orderSide.ledger.books.consistent.orderIds leftStored
        rightStored (congrArg Prod.snd same)
  · intro seat number order sold row stored same
    exact unfailed_of_confirmation linked sold stored same

-- Two orders want the only seat: the first gets it, the second is refused and
-- fails.
private def raceLabels : List Label :=
  [.inventory (.createEvent ⟨"Concert", 1⟩ 2 [3]),
    .order (.start (Order.buyRequest "") 9), .order (.database 0 .done 20 0),
    .order (.start (Order.buyRequest "") 8), .order (.database 1 .done 21 0),
    .send 0, .send 1,
    .inventory (.commitCall 0 30), .inventory (.redis 0 true),
    .inventory (.reply 0), .inventory (.commitCall 1 31),
    .receive 0 0 none,
    .receive 1 1
      (some
        (Status.error .failedPrecondition
          "one or more seats are not available")),
    .order (.database 1 .done 22 0),
    .send 0, .payment (.serve 0 .done 40), .receive 0 0 none,
    .send 0, .inventory (.commitCall 2 32), .inventory (.redis 2 true),
    .inventory (.reply 2), .receive 0 2 none,
    .order (.database 0 .done 23 0)]

private def raceIds (id : UUID) : Bool :=
  decide (id = 8 ∨ id = 9)

theorem saga_is_safe_in_a_race :
    ∃ system : System standardText,
      run (step raceIds) (System.empty standardText) raceLabels =
          some system ∧
        (∃ row ∈ system.order.db.orders, row.status = .failed) ∧
        ∃ row ∈ system.order.db.orders,
          row.status = .confirmed ∧
            (∀ seat ∈ row.seatIds,
              system.inventory.db.status seat = some .sold ∧
                SoldThrough system row seat) ∧
            ∃ payment,
              Payment.successes system.payment.payments row.id =
                  [payment] ∧
                payment.amountCents = row.amountCents := by
  have ends :
      (run (step raceIds) (System.empty standardText) raceLabels).any
          (fun system =>
            (system.order.db.orders.any fun row =>
                decide (row.status = .failed)) &&
              system.order.db.orders.any fun row =>
                decide (row.status = .confirmed)) = true := by
    decide +kernel
  obtain ⟨system, ran, checked⟩ := (Option.any_eq_true _ _).mp ends
  obtain ⟨someFailed, someConfirmed⟩ := Bool.and_eq_true_iff.mp checked
  obtain ⟨loser, loserStored, failed⟩ := List.any_eq_true.mp someFailed
  obtain ⟨winner, stored, confirmed⟩ := List.any_eq_true.mp someConfirmed
  have isConfirmed := of_decide_eq_true confirmed
  have sold := (saga_is_safe ran).1 winner stored isConfirmed
  exact ⟨system, ran, ⟨loser, loserStored, of_decide_eq_true failed⟩, winner,
    stored, isConfirmed, sold⟩

end TicketWave.Saga
