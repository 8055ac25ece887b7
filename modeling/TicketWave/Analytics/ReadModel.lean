import TicketWave.Analytics.Totals
import TicketWave.Library.Sums
import TicketWave.Order.Relayed
import Mathlib.Algebra.Ring.Int.Defs

/-!
# The read model agrees with the orders

order-svc, its publishers and the projection, which may be handed any message
that was handed to `Publish`, any number of times and in any order.
-/

namespace TicketWave.Analytics

open Library TicketWave.Order

/-- The message as it comes out of Kafka. -/
def arrival (msg : Outbox.Message OrderEvent) (partition offset : Nat) :
    Kafka.Message OrderEvent where
  topic := "order-events"
  partition := partition
  offset := offset
  key := msg.key
  value := msg.value
  headers := [("message-id", msg.messageId), ("event-type", msg.eventType)]

structure System (uuid : UuidText) where
  orders : Relayed uuid
  projection : State OrderEvent

def System.empty (uuid : UuidText) : System uuid where
  orders := Relayed.empty uuid
  projection := State.empty OrderEvent

variable {uuid : UuidText}

/-- The message has been handed to `Publish`, so it may be in Kafka. -/
def System.mayArrive (system : System uuid) (msg : Kafka.Message OrderEvent) :
    Bool :=
  system.orders.sent.any fun event =>
    event.kind.hands &&
      (event.messages uuid).any fun sent =>
        decide (arrival sent msg.partition msg.offset = msg)

inductive SystemLabel where
  | orders (label : RelayedLabel)
  | projection (label : Label OrderEvent)

def System.step (system : System uuid) :
    SystemLabel → Option (System uuid)
  | .orders label =>
      (system.orders.step label).map fun next =>
        { system with orders := next }
  | .projection (.handle msg) =>
      if system.mayArrive msg then
        (Analytics.step uuid Except.ok system.projection (.handle msg)).map
          fun next => { system with projection := next }
      else
        none
  | .projection label =>
      (Analytics.step uuid Except.ok system.projection label).map
        fun next => { system with projection := next }

theorem sent_of_mayArrive {system : System uuid}
    {msg : Kafka.Message OrderEvent} (arrives : system.mayArrive msg = true) :
    ∃ event ∈ system.orders.sent, ∃ row ∈ event.rows,
      row.payload = msg.value := by
  obtain ⟨event, logged, passes⟩ := List.any_eq_true.mp arrives
  obtain ⟨_, someSent⟩ := Bool.and_eq_true_iff.mp passes
  obtain ⟨sent, among, same⟩ := List.any_eq_true.mp someSent
  obtain ⟨row, isRow, rfl⟩ := List.mem_map.mp among
  have isMsg := of_decide_eq_true same
  exact ⟨event, logged, row, isRow, congrArg Kafka.Message.value isMsg⟩

inductive SystemTransition (system : System uuid) : System uuid → Prop
  | orders
      {next : Relayed uuid} (transition : RelayedTransition system.orders next) :
      SystemTransition system { system with orders := next }
  | projection
      {label : Label OrderEvent} {next : State OrderEvent}
      (delivers :
        ∀ msg, label = .handle msg →
          ∃ event ∈ system.orders.sent, ∃ row ∈ event.rows,
            row.payload = msg.value)
      (transition : Transition uuid Except.ok system.projection label next) :
      SystemTransition system { system with projection := next }

theorem systemTransition_of_step {system next : System uuid}
    {label : SystemLabel} (stepped : system.step label = some next) :
    SystemTransition system next := by
  unfold System.step at stepped
  split at stepped
  · obtain ⟨after, moves, rfl⟩ := Option.map_eq_some_iff.mp stepped
    exact .orders (relayedTransition_of_step moves)
  · split at stepped
    · rename_i msg arrives
      obtain ⟨after, moves, rfl⟩ := Option.map_eq_some_iff.mp stepped
      refine .projection ?_ (transition_of_step moves)
      intro other same
      cases same
      exact sent_of_mayArrive arrives
    · cases stepped
  · rename_i label notHandle
    obtain ⟨after, moves, rfl⟩ := Option.map_eq_some_iff.mp stepped
    refine .projection ?_ (transition_of_step moves)
    intro msg same
    exact absurd same (notHandle msg)

structure Linked (system : System uuid) : Prop where
  orders : Faithful system.orders
  projection :
    Among (fun msg => InOutbox system.orders.outbox msg.value)
      system.projection
  kept : ∃ ledger, Kept uuid Except.ok system.projection ledger

theorem linked_empty : Linked (System.empty uuid) where
  orders := faithful_empty
  projection := among_empty
  kept := ⟨[], kept_empty⟩

theorem linked_of_transition {system next : System uuid}
    (linked : Linked system) (transition : SystemTransition system next) :
    Linked next := by
  cases transition with
  | orders transition =>
      refine ⟨faithful_of_transition linked.orders transition, ?_, linked.kept⟩
      exact linked.projection.mono fun _ isIn =>
        inOutbox_of_transition transition isIn
  | projection delivers transition =>
      obtain ⟨ledger, kept⟩ := linked.kept
      refine
        ⟨linked.orders, among_of_transition linked.projection ?_ transition,
          kept_of_transition kept transition⟩
      intro msg isHandle
      obtain ⟨event, logged, row, sent, same⟩ := delivers msg isHandle
      rw [← same]
      exact linked.orders.sent event logged row sent

theorem linked_of_run {labels : List SystemLabel} {system : System uuid}
    (ran : run System.step (System.empty uuid) labels = some system) :
    Linked system :=
  invariant_of_run
    (fun held stepped =>
      linked_of_transition held (systemTransition_of_step stepped))
    linked_empty ran

theorem parse_of_value
    {left right : Kafka.Message OrderEvent} (same : left.value = right.value) :
    parse uuid Except.ok left = parse uuid Except.ok right := by
  unfold parse
  rw [same]

/-- What the message of the row changes. -/
def rowChange (uuid : UuidText) (row : Outbox.Row OrderEvent) : Option Change :=
  (parse uuid Except.ok (arrival (row.message uuid) 0 0)).toOption.join

theorem rowChange_eq {row : Outbox.Row OrderEvent} {event : UUID}
    (messageId : row.payload.messageId = uuid.string row.id)
    (eventId : uuid.parse row.payload.eventId = some event) :
    rowChange uuid row =
      (eventDelta row.payload).map fun delta => ⟨row.id, event, delta⟩ := by
  have parsedId : uuid.parse row.payload.messageId = some row.id := by
    rw [messageId]
    exact uuid.parse_string row.id
  unfold rowChange parse
  cases moved : eventDelta row.payload with
  | none => simp [arrival, Outbox.Row.message, moved, Except.toOption]
  | some delta =>
      simp [arrival, Outbox.Row.message, moved, parsedId, eventId,
        Except.toOption]

theorem messageId_of_rowChange {row : Outbox.Row OrderEvent} {change : Change}
    (legible : Legible uuid row) (changes : rowChange uuid row = some change) :
    change.messageId = row.id := by
  obtain ⟨event, eventId⟩ := legible.eventId
  rw [rowChange_eq legible.messageId eventId] at changes
  obtain ⟨delta, _, rfl⟩ := Option.map_eq_some_iff.mp changes
  rfl

theorem changeIds_sublist {rows : List (Outbox.Row OrderEvent)}
    (legible : ∀ row ∈ rows, Legible uuid row) :
    ((rows.filterMap (rowChange uuid)).map Change.messageId).Sublist
      (rows.map Outbox.Row.id) := by
  induction rows with
  | nil => exact .slnil
  | cons head tail ih =>
      have rest :=
        ih fun row member =>
          legible row (List.mem_cons_of_mem head member)
      rw [List.filterMap_cons, List.map_cons]
      cases changes : rowChange uuid head with
      | none => exact rest.cons _
      | some change =>
          have same :=
            messageId_of_rowChange (legible head List.mem_cons_self) changes
          show List.Sublist (change.messageId :: _) _
          rw [same]
          exact rest.cons_cons _

section Settled

variable {system : System uuid}

theorem row_of_counted (linked : Linked system) {change : Change}
    (counted : change ∈ changes uuid Except.ok system.projection.handled) :
    ∃ row ∈ system.orders.outbox, rowChange uuid row = some change := by
  obtain ⟨msg, handled, parsed⟩ := List.mem_filterMap.mp counted
  obtain ⟨row, stored, same⟩ := linked.projection.handled msg handled
  refine ⟨row, stored, ?_⟩
  have sameValue : (arrival (row.message uuid) 0 0).value = msg.value := same
  unfold rowChange
  rw [parse_of_value sameValue]
  exact parsed

/-- The message of every published row has had a committed call. -/
def AllCounted (system : System uuid) : Prop :=
  ∀ row ∈ system.orders.outbox, row.published = true →
    ∃ msg ∈ system.projection.handled,
      arrival (row.message uuid) msg.partition msg.offset = msg

instance (system : System uuid) : Decidable (AllCounted system) :=
  inferInstanceAs
    (Decidable
      (∀ row ∈ system.orders.outbox, row.published = true →
        ∃ msg ∈ system.projection.handled,
          arrival (row.message uuid) msg.partition msg.offset = msg))

theorem counted_of_row
    (allCounted : AllCounted system) {row : Outbox.Row OrderEvent}
    (stored : row ∈ system.orders.outbox) (published : row.published = true)
    {change : Change} (isChange : rowChange uuid row = some change) :
    change ∈ changes uuid Except.ok system.projection.handled := by
  obtain ⟨msg, handled, isArrival⟩ := allCounted row stored published
  have sameValue : msg.value = (arrival (row.message uuid) 0 0).value := by
    rw [← isArrival]
    rfl
  refine List.mem_filterMap.mpr ⟨msg, handled, ?_⟩
  rw [parse_of_value sameValue]
  exact isChange

/-- Once everything is published and counted, the statistics are the totals of
the outbox. -/
theorem stats_of_outbox (linked : Linked system)
    (published : ∀ row ∈ system.orders.outbox, row.published = true)
    (allCounted : AllCounted system) (event : UUID) :
    system.projection.db.stats event =
      total (system.orders.outbox.filterMap (rowChange uuid)) event := by
  obtain ⟨ledger, kept⟩ := linked.kept
  have legible := linked.orders.legible
  have rowIds := linked.orders.books.consistent.outboxIds
  have ofLedger :
      ∀ change ∈ ledger, ∃ row ∈ system.orders.outbox,
        rowChange uuid row = some change :=
    fun change member => row_of_counted linked (kept.included change member)
  rw [kept.totals]
  apply total_of_perm
  apply perm_of_same_keys _ kept.distinct
  · exact rowIds.sublist (changeIds_sublist legible)
  · intro messageId
    constructor
    · intro member
      obtain ⟨change, stored, rfl⟩ := List.mem_map.mp member
      obtain ⟨row, inOutbox, changes⟩ := ofLedger change stored
      exact List.mem_map_of_mem
        (List.mem_filterMap.mpr ⟨row, inOutbox, changes⟩)
    · intro member
      obtain ⟨change, stored, rfl⟩ := List.mem_map.mp member
      obtain ⟨row, inOutbox, changes⟩ := List.mem_filterMap.mp stored
      rw [← kept.processed]
      exact kept.covered change
        (counted_of_row allCounted inOutbox (published row inOutbox) changes)
  · intro first inLedger second inRows sameId
    obtain ⟨left, leftStored, leftChange⟩ := ofLedger first inLedger
    obtain ⟨right, rightStored, rightChange⟩ := List.mem_filterMap.mp inRows
    rw [messageId_of_rowChange (legible left leftStored) leftChange,
      messageId_of_rowChange (legible right rightStored) rightChange]
      at sameId
    have sameRow := row_unique rowIds leftStored rightStored sameId
    rw [sameRow, rightChange] at leftChange
    exact (Option.some.inj leftChange).symm

end Settled

/-- What the change adds to the counters of the event. -/
def Change.deltaFor (event : UUID) (change : Change) : Delta :=
  if change.eventId = event then change.delta else 0

theorem total_eq_sum (changes : List Change) (event : UUID) :
    (total changes event).getD 0 = (changes.map (Change.deltaFor event)).sum := by
  induction changes with
  | nil => rfl
  | cons head tail ih =>
      unfold total at ih ⊢
      rw [List.map_cons, List.sum_cons, ← ih]
      by_cases same : head.eventId = event
      · rw [List.filter_cons_of_pos (by simpa using same)]
        cases rest : tail.filter fun change => decide (change.eventId = event)
        · simp [Change.deltaFor, same]
        · simp [Change.deltaFor, same]
      · rw [List.filter_cons_of_neg (by simpa using same)]
        cases rest : tail.filter fun change => decide (change.eventId = event)
        · simp [Change.deltaFor, same]
        · simp [Change.deltaFor, same]

/-- What the row adds to the counters of the event. -/
def rowDelta (uuid : UuidText) (event : UUID)
    (row : Outbox.Row OrderEvent) : Delta :=
  ((rowChange uuid row).map (Change.deltaFor event)).getD 0

theorem sum_rowChanges (rows : List (Outbox.Row OrderEvent)) (event : UUID) :
    ((rows.filterMap (rowChange uuid)).map (Change.deltaFor event)).sum =
      (rows.map (rowDelta uuid event)).sum := by
  induction rows with
  | nil => rfl
  | cons head tail ih =>
      rw [List.filterMap_cons, List.map_cons, List.sum_cons, ← ih]
      cases changes : rowChange uuid head with
      | none => simp [rowDelta, changes]
      | some change => simp [rowDelta, changes]

/-- What an order is worth in the statistics of the event. -/
def orderDelta (event : UUID) (row : OrderRow) : Delta :=
  if row.eventId = event then
    match row.status with
    | .pending => 0
    | .confirmed => ⟨row.seatIds.length, row.amountCents, 1, 0⟩
    | .failed => ⟨0, 0, 0, 1⟩
  else
    0

theorem rowDelta_of_repeats {row : OrderRow}
    {announcement : Outbox.Row OrderEvent} (legible : Legible uuid announcement)
    (repeated : Repeats uuid announcement row) (event : UUID) :
    rowDelta uuid event announcement =
      if row.eventId = event then
        (eventDelta announcement.payload).getD 0
      else
        0 := by
  obtain ⟨parsedEvent, eventId⟩ := legible.eventId
  have same : row.eventId = parsedEvent :=
    uuid.column_agrees eventId repeated.eventId
  unfold rowDelta
  rw [rowChange_eq legible.messageId eventId, same]
  cases eventDelta announcement.payload with
  | none => simp
  | some delta => rfl

theorem announcements_worth
    {db : Order.Db} {row : OrderRow} (consistent : Consistent uuid db)
    (legible : ∀ announcement ∈ db.outbox, Legible uuid announcement)
    (stored : row ∈ db.orders) (event : UUID) :
    ((announcements db row.id).map (rowDelta uuid event)).sum =
      orderDelta event row := by
  have worth :
      ∀ announcement ∈ announcements db row.id,
        rowDelta uuid event announcement =
          if row.eventId = event then
            (eventDelta announcement.payload).getD 0
          else
            0 := by
    intro announcement isAbout
    exact rowDelta_of_repeats
      (legible announcement (List.mem_filter.mp isAbout).1)
      (consistent.repeats row stored announcement isAbout) event
  have repeated := consistent.repeats row stored
  have announced := consistent.announced row stored
  rw [List.map_congr_left worth]
  unfold orderDelta
  by_cases mine : row.eventId = event
  · simp only [if_pos mine]
    generalize announcements db row.id = events at announced repeated
    cases announced with
    | pending status first => simp [status, eventDelta, first]
    | @confirmed created last status reason first second =>
        have contents := repeated last (by simp)
        have seats := uuid.columns_length contents.seats
        simp [status, eventDelta, first, second, seats, contents.amount]
    | failed status reason first second =>
        simp [status, eventDelta, first, second]
  · simp [mine]

theorem sum_outbox {db : Order.Db} (consistent : Consistent uuid db)
    (legible : ∀ announcement ∈ db.outbox, Legible uuid announcement)
    (event : UUID) :
    (db.outbox.map (rowDelta uuid event)).sum =
      (db.orders.map (orderDelta event)).sum := by
  rw [sum_by_key (rowDelta uuid event) consistent.orderIds consistent.known,
    List.map_map]
  congr 1
  apply List.map_congr_left
  intro row stored
  exact announcements_worth consistent legible stored event

/-- The orders of the event with the status. -/
def ordersWith (orders : List OrderRow) (event : UUID) (status : OrderStatus) :
    List OrderRow :=
  orders.filter fun row =>
    decide (row.eventId = event ∧ row.status = status)

theorem ordersWith_cons (head : OrderRow) (tail : List OrderRow) (event : UUID)
    (status : OrderStatus) :
    ordersWith (head :: tail) event status =
      if head.eventId = event ∧ head.status = status then
        head :: ordersWith tail event status
      else
        ordersWith tail event status := by
  unfold ordersWith
  rw [List.filter_cons]
  simp

/-- The counters of the event as they follow from the orders. -/
def orderCounters (orders : List OrderRow) (event : UUID) : Delta where
  ticketsSold :=
    ((ordersWith orders event .confirmed).map fun row =>
      (row.seatIds.length : Int)).sum
  revenueCents :=
    ((ordersWith orders event .confirmed).map OrderRow.amountCents).sum
  confirmed := (ordersWith orders event .confirmed).length
  failed := (ordersWith orders event .failed).length

theorem sum_orderDelta (orders : List OrderRow) (event : UUID) :
    (orders.map (orderDelta event)).sum = orderCounters orders event := by
  induction orders with
  | nil => rfl
  | cons head tail ih =>
      rw [List.map_cons, List.sum_cons, ih]
      unfold orderDelta orderCounters
      by_cases mine : head.eventId = event
      · cases status : head.status
        · simp [ordersWith_cons, mine, status]
        · ext <;> simp [ordersWith_cons, mine, status, add_comm]
        · ext <;> simp [ordersWith_cons, mine, status, add_comm]
      · simp [ordersWith_cons, mine]

/-- When all announcements are published and counted, the statistics of every
concert are those of its orders. -/
theorem read_model_agrees_with_orders
    {labels : List SystemLabel} {system : System uuid}
    (ran : run System.step (System.empty uuid) labels = some system)
    (published : ∀ row ∈ system.orders.outbox, row.published = true)
    (allCounted : AllCounted system) (event : UUID) :
    let stats := (system.projection.db.stats event).getD 0
    let orders := system.orders.service.db.orders
    stats.confirmed = (ordersWith orders event .confirmed).length ∧
      stats.failed = (ordersWith orders event .failed).length ∧
      stats.ticketsSold =
        ((ordersWith orders event .confirmed).map fun row =>
          (row.seatIds.length : Int)).sum ∧
      stats.revenueCents =
        ((ordersWith orders event .confirmed).map OrderRow.amountCents).sum := by
  have linked := linked_of_run ran
  have stats :
      (system.projection.db.stats event).getD 0 =
        orderCounters system.orders.service.db.orders event := by
    calc
      (system.projection.db.stats event).getD 0 =
          (total (system.orders.outbox.filterMap (rowChange uuid))
            event).getD 0 := by
        rw [stats_of_outbox linked published allCounted]
      _ = (system.orders.outbox.map (rowDelta uuid event)).sum := by
        rw [total_eq_sum, sum_rowChanges]
      _ = (system.orders.service.db.orders.map (orderDelta event)).sum :=
        sum_outbox linked.orders.books.consistent linked.orders.legible event
      _ = orderCounters system.orders.service.db.orders event :=
        sum_orderDelta _ event
  rw [stats]
  exact ⟨rfl, rfl, rfl, rfl⟩

-- One order is confirmed and one is refused its seat.  A publisher crashes
-- after Kafka has accepted all four events, and they are sent again; the
-- confirmation is delivered twice.
private def soldRow (orderId rowId : UUID) (type : OrderEventType)
    (reason : OrderFailureReason) : Outbox.Row OrderEvent :=
  orderEventRow standardText
    ⟨orderId, standardString 1, standardString 2, [standardString 3], 100⟩
    type reason rowId 0

private def soldRows : List (Outbox.Row OrderEvent) :=
  [soldRow 9 20 .created .unspecified, soldRow 9 21 .confirmed .unspecified,
    soldRow 8 22 .created .unspecified, soldRow 8 23 .failed .seatsUnavailable]

private def refusedLabels : List Order.Label :=
  [.start (buyRequest "") 8, .database 1 .done 22 0, .invoke 1,
    .answer 1 (some errSeatsUnavailable), .database 1 .done 23 0]

private def soldMessage (index : Nat) : Kafka.Message OrderEvent :=
  arrival
    ((soldRows.getD index (soldRow 0 0 .unspecified .unspecified)).message
      standardText) 0 index

private def readModelLabels : List SystemLabel :=
  ((buyLabels 0 (buyRequest "") ++ refusedLabels).map fun label =>
      .orders (.service label)) ++
    ([.select soldRows, .publish 0, .accept 0, .abort 0, .select soldRows,
      .publish 1, .accept 1, .update 1, .commit 1].map fun label =>
      .orders (.publisher label)) ++
    ([.handle (soldMessage 1), .handle (soldMessage 1), .mark 0, .count 0,
      .handle (soldMessage 3), .commit 0, .mark 1, .commit 1, .mark 2,
      .count 2, .commit 2, .handle (soldMessage 0),
      .handle (soldMessage 2)].map fun label => .projection label)

theorem read_model_agrees_with_orders_of_a_day :
    ∃ system : System standardText,
      run System.step (System.empty standardText) readModelLabels =
          some system ∧
        (∀ row ∈ system.orders.outbox, row.published = true) ∧
        AllCounted system ∧
        (system.projection.db.stats 2).getD 0 = ⟨1, 100, 1, 1⟩ ∧
        (ordersWith system.orders.service.db.orders 2 .confirmed).length =
          1 := by
  have ends :
      (run System.step (System.empty standardText) readModelLabels).any
          (fun system =>
            system.orders.outbox.all (fun row => row.published) &&
              (decide (AllCounted system) &&
                decide
                  ((system.projection.db.stats 2).getD 0 =
                    ⟨1, 100, 1, 1⟩))) = true := by
    decide +kernel
  obtain ⟨system, ran, checked⟩ := (Option.any_eq_true _ _).mp ends
  obtain ⟨published, rest⟩ := Bool.and_eq_true_iff.mp checked
  obtain ⟨isCounted, isTotal⟩ := Bool.and_eq_true_iff.mp rest
  have allPublished := List.all_eq_true.mp published
  have allCounted := of_decide_eq_true isCounted
  have stats := of_decide_eq_true isTotal
  have agrees := (read_model_agrees_with_orders ran allPublished allCounted 2).1
  rw [stats] at agrees
  exact ⟨system, ran, allPublished, allCounted, stats,
    (Int.ofNat.inj agrees).symm⟩

end TicketWave.Analytics
