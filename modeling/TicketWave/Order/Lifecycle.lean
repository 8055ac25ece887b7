import TicketWave.Order.Service

/-!
# Orders and their announcements

The `UPDATE` of a transition does not look at the status it replaces: `Owned`
says that a run with work left on an order finds it `PENDING`.
-/

namespace TicketWave.Order

open Library

variable {uuid : UuidText}

/-- The row stores what the request asked for. -/
structure Stores
    (uuid : UuidText) (req : CreateOrderRequest) (row : OrderRow) :
    Prop where
  user : uuid.column req.userId = some row.userId
  eventId : uuid.column req.eventId = some row.eventId
  seats : uuid.columns req.seatIds = some row.seatIds
  amount : req.amountCents = row.amountCents
  key : row.idempotencyKey = nullIfEmpty req.idempotencyKey

/-- The outbox row is about this order and repeats its contents. -/
structure Repeats
    (uuid : UuidText) (event : Outbox.Row OrderEvent) (row : OrderRow) :
    Prop where
  order : event.payload.orderId = uuid.string row.id
  user : uuid.column event.payload.userId = some row.userId
  eventId : uuid.column event.payload.eventId = some row.eventId
  seats : uuid.columns event.payload.seatIds = some row.seatIds
  amount : event.payload.amountCents = row.amountCents
  name : event.eventType = eventTypeName event.payload.type

def announcements (db : Db) (id : UUID) : List (Outbox.Row OrderEvent) :=
  db.outbox.filter fun event => decide (event.key = id)

/-- The announcements an order row can have, oldest first. -/
inductive Announced (row : OrderRow) : List (Outbox.Row OrderEvent) → Prop
  | pending
      {created : Outbox.Row OrderEvent}
      (status : row.status = .pending)
      (first : created.payload.type = .created) :
      Announced row [created]
  | confirmed
      {created last : Outbox.Row OrderEvent}
      (status : row.status = .confirmed) (reason : row.failureReason = none)
      (first : created.payload.type = .created)
      (second : last.payload.type = .confirmed) :
      Announced row [created, last]
  | failed
      {created last : Outbox.Row OrderEvent}
      (status : row.status = .failed)
      (reason :
        row.failureReason = some (reasonLabel last.payload.failureReason))
      (first : created.payload.type = .created)
      (second : last.payload.type = .failed) :
      Announced row [created, last]

variable {row : OrderRow} {events : List (Outbox.Row OrderEvent)}
  {type : OrderEventType} {reason : OrderFailureReason} {rowId : UUID}
  {now : Nat} {db : Db} {state next : State uuid} {label : Label}

theorem Announced.of_pending (announced : Announced row events)
    (pending : row.status = .pending) :
    ∃ created, events = [created] ∧ created.payload.type = .created := by
  cases announced with
  | pending _ first => exact ⟨_, rfl, first⟩
  | confirmed status =>
      rw [pending] at status
      cases status
  | failed status =>
      rw [pending] at status
      cases status

theorem announcements_append (db : Db) (event : Outbox.Row OrderEvent)
    (orders : List OrderRow) (id : UUID) :
    announcements ⟨orders, db.outbox ++ [event]⟩ id =
      announcements db id ++ if event.key = id then [event] else [] := by
  unfold announcements
  rw [List.filter_append]
  by_cases same : event.key = id
  · simp [same]
  · simp [same]

theorem repeats_orderEventRow {run : Run uuid} (same : row.id = run.orderId)
    (stores : Stores uuid run.request.req row) :
    Repeats uuid (orderEventRow uuid run.order type reason rowId now) row where
  order := congrArg uuid.string same.symm
  user := stores.user
  eventId := stores.eventId
  seats := stores.seats
  amount := stores.amount
  name := rfl

theorem insertOutbox_ok {next : Db} {order : OrderSnapshot}
    (inserted : insertOutbox uuid db order type reason rowId now = .ok next) :
    order.id ∈ db.orders.map OrderRow.id ∧
      rowId ∉ db.outbox.map Outbox.Row.id ∧
      next =
        ⟨db.orders,
          db.outbox ++ [orderEventRow uuid order type reason rowId now]⟩ := by
  unfold insertOutbox at inserted
  split at inserted
  · cases inserted
  · rename_i known
    have present := Decidable.not_not.mp known
    unfold Outbox.insert at inserted
    by_cases taken : rowId ∈ db.outbox.map Outbox.Row.id
    · rw [if_pos (by exact taken)] at inserted
      cases inserted
    · rw [if_neg (by exact taken)] at inserted
      cases inserted
      exact ⟨present, taken, rfl⟩

/-- A committed `createOrder`. -/
structure Created
    (run : Run uuid) (db : Db) (row : OrderRow) (rowId : UUID) (now : Nat)
    (next : Db) : Prop where
  same : row.id = run.orderId
  stores : Stores uuid run.request.req row
  pending : row.status = .pending
  fresh : run.orderId ∉ db.orders.map OrderRow.id
  free : keyTaken db row.userId row.idempotencyKey = false
  freshEvent : rowId ∉ db.outbox.map Outbox.Row.id
  next :
    next =
      ⟨db.orders ++ [row],
        db.outbox ++
          [orderEventRow uuid run.order .created .unspecified rowId now]⟩

theorem createOrder_ok {run : Run uuid} {next : Db}
    (committed :
      createOrder uuid db run.order run.request.req.idempotencyKey rowId
        now = .ok next) : ∃ row, Created run db row rowId now next := by
  unfold createOrder at committed
  split at committed
  · rename_i user event seats readUser readEvent readSeats
    split at committed
    · cases committed
    · rename_i fresh
      split at committed
      · cases committed
      · rename_i free
        obtain ⟨_, freshEvent, shape⟩ := insertOutbox_ok committed
        refine ⟨_, ⟨rfl, ?_, rfl, fresh, ?_, freshEvent, shape⟩⟩
        · exact ⟨readUser, readEvent, readSeats, rfl, rfl⟩
        · exact Bool.eq_false_iff.mpr free
  · cases committed

/-- The row a transition leaves. -/
def settle (status : OrderStatus) (type : OrderEventType)
    (reason : OrderFailureReason) (row : OrderRow) : OrderRow :=
  { row with
    status := status
    failureReason :=
      if type = .failed then some (reasonLabel reason) else none }

/-- A committed `transition`. -/
structure Settled
    (run : Run uuid) (db : Db) (status : OrderStatus)
    (type : OrderEventType) (reason : OrderFailureReason) (rowId : UUID)
    (now : Nat) (next : Db) : Prop where
  freshEvent : rowId ∉ db.outbox.map Outbox.Row.id
  next :
    next =
      ⟨updateWhere (fun row => decide (row.id = run.orderId))
          (settle status type reason) db.orders,
        db.outbox ++ [orderEventRow uuid run.order type reason rowId now]⟩

theorem transition_ok {run : Run uuid} {next : Db} {status : OrderStatus}
    (committed :
      transition uuid db run.order status type reason rowId now = .ok next) :
    Settled run db status type reason rowId now next := by
  obtain ⟨_, freshEvent, shape⟩ := insertOutbox_ok committed
  exact ⟨freshEvent, shape⟩

structure Consistent (uuid : UuidText) (db : Db) : Prop where
  orderIds : (db.orders.map OrderRow.id).Nodup
  outboxIds : (db.outbox.map Outbox.Row.id).Nodup
  known : ∀ event ∈ db.outbox, event.key ∈ db.orders.map OrderRow.id
  keys :
    ∀ left ∈ db.orders, ∀ right ∈ db.orders,
      left.userId = right.userId →
        left.idempotencyKey = right.idempotencyKey →
          left.idempotencyKey.isSome → left = right
  announced : ∀ row ∈ db.orders, Announced row (announcements db row.id)
  repeats :
    ∀ row ∈ db.orders, ∀ event ∈ announcements db row.id, Repeats uuid event row

theorem consistent_empty : Consistent uuid Db.empty := by
  constructor <;> simp [Db.empty]

theorem announcements_of_unknown {id : UUID} (consistent : Consistent uuid db)
    (unknown : id ∉ db.orders.map OrderRow.id) : announcements db id = [] := by
  apply List.filter_eq_nil_iff.mpr
  intro event stored isAbout
  have same : event.key = id := of_decide_eq_true isAbout
  exact unknown (same ▸ consistent.known event stored)

theorem keyTaken_of_row (stored : row ∈ db.orders)
    (keyed : row.idempotencyKey.isSome) :
    keyTaken db row.userId row.idempotencyKey = true := by
  unfold keyTaken
  rw [keyed, Bool.true_and]
  exact List.any_eq_true.mpr ⟨row, stored, by simp⟩

section Create

variable {run : Run uuid} {db next : Db} {row : OrderRow} {rowId : UUID}
  {now : Nat}

theorem Created.announcements_old (created : Created run db row rowId now next)
    {id : UUID} (known : id ∈ db.orders.map OrderRow.id) :
    announcements next id = announcements db id := by
  have different : run.orderId ≠ id := by
    rintro rfl
    exact created.fresh known
  rw [created.next, announcements_append, if_neg (by exact different),
    List.append_nil]

theorem Created.announcements_new (consistent : Consistent uuid db)
    (created : Created run db row rowId now next) :
    announcements next row.id =
      [orderEventRow uuid run.order .created .unspecified rowId now] := by
  have none : announcements db run.orderId = [] :=
    announcements_of_unknown consistent created.fresh
  rw [created.next, announcements_append, created.same, none,
    if_pos (by rfl), List.nil_append]

theorem consistent_of_create (consistent : Consistent uuid db)
    (created : Created run db row rowId now next) : Consistent uuid next := by
  have orders : next.orders = db.orders ++ [row] := by rw [created.next]
  have outbox :
      next.outbox =
        db.outbox ++
          [orderEventRow uuid run.order .created .unspecified rowId now] := by
    rw [created.next]
  -- the new row has a pair that no stored row has
  have separate :
      ∀ old ∈ db.orders, old.userId = row.userId →
        old.idempotencyKey = row.idempotencyKey →
          ¬ old.idempotencyKey.isSome := by
    intro old stored sameUser sameKey keyed
    have taken := keyTaken_of_row stored keyed
    rw [sameUser, sameKey, created.free] at taken
    cases taken
  refine ⟨?_, ?_, ?_, ?_, ?_, ?_⟩
  · rw [orders]
    apply nodup_keys_append consistent.orderIds
    rw [created.same]
    exact created.fresh
  · rw [outbox]
    exact nodup_keys_append consistent.outboxIds created.freshEvent
  · intro event stored
    rw [outbox] at stored
    rw [orders, List.map_append, List.mem_append]
    rcases List.mem_append.mp stored with old | new
    · exact Or.inl (consistent.known event old)
    · rw [List.mem_singleton.mp new, List.map_singleton, created.same]
      exact Or.inr (List.mem_singleton_self run.orderId)
  · intro left leftStored right rightStored sameUser sameKey keyed
    rw [orders, List.mem_append, List.mem_singleton] at leftStored rightStored
    rcases leftStored with leftOld | rfl
    · rcases rightStored with rightOld | rfl
      · exact consistent.keys left leftOld right rightOld sameUser sameKey keyed
      · exact absurd keyed (separate left leftOld sameUser sameKey)
    · rcases rightStored with rightOld | rfl
      · have rightKeyed : right.idempotencyKey.isSome := by
          rw [← sameKey]
          exact keyed
        exact absurd rightKeyed
          (separate right rightOld sameUser.symm sameKey.symm)
      · rfl
  · intro stored member
    rw [orders, List.mem_append, List.mem_singleton] at member
    rcases member with old | rfl
    · have known : stored.id ∈ db.orders.map OrderRow.id :=
        List.mem_map_of_mem old
      rw [created.announcements_old known]
      exact consistent.announced stored old
    · rw [created.announcements_new consistent]
      exact .pending created.pending rfl
  · intro stored member event isAbout
    rw [orders, List.mem_append, List.mem_singleton] at member
    rcases member with old | rfl
    · have known : stored.id ∈ db.orders.map OrderRow.id :=
        List.mem_map_of_mem old
      rw [created.announcements_old known] at isAbout
      exact consistent.repeats stored old event isAbout
    · rw [created.announcements_new consistent, List.mem_singleton] at isAbout
      rw [isAbout]
      exact repeats_orderEventRow created.same created.stores

end Create

section Settle

variable {run : Run uuid} {db next : Db} {row : OrderRow}
  {status : OrderStatus} {type : OrderEventType}
  {reason : OrderFailureReason} {rowId : UUID} {now : Nat}

theorem Settled.announcements
    (settled : Settled run db status type reason rowId now next) (id : UUID) :
    announcements next id =
      Order.announcements db id ++
        if run.orderId = id then
          [orderEventRow uuid run.order type reason rowId now]
        else [] := by
  rw [settled.next]
  exact announcements_append db _ _ id

theorem Settled.mem_orders
    (settled : Settled run db status type reason rowId now next)
    {stored : OrderRow} :
    stored ∈ next.orders ↔
      ∃ old ∈ db.orders,
        (if old.id = run.orderId then settle status type reason old
          else old) = stored := by
  rw [settled.next, mem_updateWhere]
  simp only [decide_eq_true_eq]

theorem Settled.orderIds
    (settled : Settled run db status type reason rowId now next) :
    next.orders.map OrderRow.id = db.orders.map OrderRow.id := by
  rw [settled.next]
  exact map_key_updateWhere (by intro old; rfl) db.orders

/-- The event type of a transition is the one that belongs to its status. -/
def Closing (status : OrderStatus) (type : OrderEventType) : Prop :=
  status = .confirmed ∧ type = .confirmed ∨ status = .failed ∧ type = .failed

theorem announced_settle {created : Outbox.Row OrderEvent}
    (closing : Closing status type) (first : created.payload.type = .created) :
    Announced (settle status type reason row)
      [created, orderEventRow uuid run.order type reason rowId now] := by
  rcases closing with ⟨rfl, rfl⟩ | ⟨rfl, rfl⟩
  · exact .confirmed rfl rfl first rfl
  · exact .failed rfl rfl first rfl

/-- Only the row of the order changes, and only it gets an announcement. -/
theorem Settled.cases_orders
    (settled : Settled run db status type reason rowId now next)
    (orderIds : (db.orders.map OrderRow.id).Nodup)
    (stored : row ∈ db.orders) (same : row.id = run.orderId)
    {changed : OrderRow} (member : changed ∈ next.orders) :
    changed = settle status type reason row ∧
        Order.announcements next changed.id =
          Order.announcements db row.id ++
            [orderEventRow uuid run.order type reason rowId now] ∨
      changed ∈ db.orders ∧
        Order.announcements next changed.id =
          Order.announcements db changed.id := by
  obtain ⟨old, oldStored, rfl⟩ := settled.mem_orders.mp member
  by_cases mine : old.id = run.orderId
  · have isRow : old = row :=
      row_unique orderIds oldStored stored (mine.trans same.symm)
    subst isRow
    have id : (settle status type reason old).id = run.orderId := mine
    rw [if_pos mine, settled.announcements, id, if_pos rfl, mine]
    exact .inl ⟨rfl, rfl⟩
  · rw [if_neg mine, settled.announcements, if_neg (Ne.symm mine),
      List.append_nil]
    exact .inr ⟨oldStored, rfl⟩

theorem Settled.keys
    (settled : Settled run db status type reason rowId now next)
    {changed : OrderRow} (member : changed ∈ next.orders) :
    ∃ old ∈ db.orders,
      (if old.id = run.orderId then settle status type reason old
        else old) = changed ∧
      changed.userId = old.userId ∧
      changed.idempotencyKey = old.idempotencyKey := by
  obtain ⟨old, oldStored, rfl⟩ := settled.mem_orders.mp member
  refine ⟨old, oldStored, rfl, ?_⟩
  split
  · exact ⟨rfl, rfl⟩
  · exact ⟨rfl, rfl⟩

theorem consistent_of_settle (consistent : Consistent uuid db)
    (stored : row ∈ db.orders) (same : row.id = run.orderId)
    (pending : row.status = .pending) (stores : Stores uuid run.request.req row)
    (closing : Closing status type)
    (settled : Settled run db status type reason rowId now next) :
    Consistent uuid next := by
  have outbox :
      next.outbox =
        db.outbox ++ [orderEventRow uuid run.order type reason rowId now] := by
    rw [settled.next]
  refine ⟨?_, ?_, ?_, ?_, ?_, ?_⟩
  · rw [settled.orderIds]
    exact consistent.orderIds
  · rw [outbox]
    exact nodup_keys_append consistent.outboxIds settled.freshEvent
  · intro event member
    rw [outbox] at member
    rw [settled.orderIds]
    rcases List.mem_append.mp member with old | new
    · exact consistent.known event old
    · rw [List.mem_singleton.mp new]
      have known : row.id ∈ db.orders.map OrderRow.id :=
        List.mem_map_of_mem stored
      rw [same] at known
      exact known
  · intro left leftMember right rightMember sameUser sameKey keyed
    obtain ⟨oldLeft, leftStored, isLeft, leftUser, leftKey⟩ :=
      settled.keys leftMember
    obtain ⟨oldRight, rightStored, isRight, rightUser, rightKey⟩ :=
      settled.keys rightMember
    rw [leftUser, rightUser] at sameUser
    rw [leftKey, rightKey] at sameKey
    rw [leftKey] at keyed
    rw [← isLeft, ← isRight,
      consistent.keys oldLeft leftStored oldRight rightStored sameUser
        sameKey keyed]
  · intro changed member
    rcases
      settled.cases_orders consistent.orderIds stored same member with
      ⟨isSettled, isAbout⟩ | ⟨old, isAbout⟩
    · have announced := consistent.announced row stored
      obtain ⟨created, events, first⟩ := announced.of_pending pending
      rw [isAbout, isSettled, events]
      exact announced_settle closing first
    · rw [isAbout]
      exact consistent.announced changed old
  · intro changed member event isAbout
    rcases
      settled.cases_orders consistent.orderIds stored same member with
      ⟨isSettled, announced⟩ | ⟨old, announced⟩
    · rw [announced, List.mem_append, List.mem_singleton] at isAbout
      rw [isSettled]
      rcases isAbout with before | last
      · have repeated := consistent.repeats row stored event before
        exact ⟨repeated.order, repeated.user, repeated.eventId, repeated.seats,
          repeated.amount, repeated.name⟩
      · have written :
            Stores uuid run.request.req (settle status type reason row) :=
          ⟨stores.user, stores.eventId, stores.seats, stores.amount, stores.key⟩
        rw [last]
        exact repeats_orderEventRow same written
    · rw [announced] at isAbout
      exact consistent.repeats changed old event isAbout

end Settle

structure Owned (db : Db) (runs : Registry (Run uuid)) : Prop where
  active :
    ∀ {id run}, runs.get id = some run → run.stage.active = true →
      ∃ row ∈ db.orders, row.id = run.orderId ∧ row.status = .pending ∧
        Stores uuid run.request.req row
  alone :
    ∀ {left right leftRun rightRun}, runs.get left = some leftRun →
      runs.get right = some rightRun → leftRun.stage.active = true →
        rightRun.stage.active = true →
          leftRun.orderId = rightRun.orderId → left = right

section Owned

variable {db next : Db} {runs : Registry (Run uuid)} {id : Nat}
  {run new : Run uuid}

theorem owned_launch (owned : Owned db runs)
    (inactive : new.stage.active = false) : Owned db (runs.launch new) := by
  have old :
      ∀ {other : Nat} {value : Run uuid},
        (runs.launch new).get other = some value →
          value.stage.active = true → runs.get other = some value := by
    intro other value found isActive
    rcases Registry.cases_of_get_launch found with ⟨_, rfl⟩ | stored
    · rw [inactive] at isActive
      cases isActive
    · exact stored
  constructor
  · intro other value found isActive
    exact owned.active (old found isActive) isActive
  · intro left right leftRun rightRun leftFound rightFound leftActive
      rightActive same
    exact owned.alone (old leftFound leftActive) (old rightFound rightActive)
      leftActive rightActive same

theorem owned_finish (owned : Owned db runs) : Owned db (runs.finish id) := by
  constructor
  · intro other value found
    exact owned.active (Registry.get_of_get_finish found).2
  · intro left right leftRun rightRun leftFound rightFound
    have leftStored := (Registry.get_of_get_finish leftFound).2
    have rightStored := (Registry.get_of_get_finish rightFound).2
    exact owned.alone leftStored rightStored

theorem owned_put (owned : Owned db runs) (running : runs.get id = some run)
    (sameRequest : new.request = run.request)
    (sameOrder : new.orderId = run.orderId)
    (active : new.stage.active = true → run.stage.active = true) :
    Owned db (runs.put id new) := by
  have old :
      ∀ {other : Nat} {value : Run uuid},
        (runs.put id new).get other = some value →
          value.stage.active = true →
            ∃ before, runs.get other = some before ∧
              before.stage.active = true ∧
              before.request = value.request ∧
              before.orderId = value.orderId := by
    intro other value found isActive
    rcases Registry.cases_of_get_put found with ⟨mine, rfl⟩ | ⟨_, stored⟩
    · exact ⟨run, mine ▸ running, active isActive, sameRequest.symm,
        sameOrder.symm⟩
    · exact ⟨value, stored, isActive, rfl, rfl⟩
  constructor
  · intro other value found isActive
    obtain ⟨before, stored, wasActive, request, order⟩ := old found isActive
    rw [← request, ← order]
    exact owned.active stored wasActive
  · intro left right leftRun rightRun leftFound rightFound leftActive
      rightActive same
    obtain ⟨leftOld, leftStored, leftWas, _, leftOrder⟩ :=
      old leftFound leftActive
    obtain ⟨rightOld, rightStored, rightWas, _, rightOrder⟩ :=
      old rightFound rightActive
    rw [← leftOrder, ← rightOrder] at same
    exact owned.alone leftStored rightStored leftWas rightWas same

theorem owned_mono (owned : Owned db runs)
    (kept :
      ∀ {other value}, runs.get other = some value →
        value.stage.active = true →
          ∀ row ∈ db.orders, row.id = value.orderId → row ∈ next.orders) :
    Owned next runs := by
  constructor
  · intro other value found isActive
    obtain ⟨row, stored, same, facts⟩ := owned.active found isActive
    exact ⟨row, kept found isActive row stored same, same, facts⟩
  · exact owned.alone

theorem owned_of_create {row : OrderRow} {rowId : UUID} {now : Nat}
    {stage : Stage} (owned : Owned db runs)
    (created : Created run db row rowId now next) :
    Owned next (runs.put id (run.goto stage)) := by
  have appended : next.orders = db.orders ++ [row] := by rw [created.next]
  -- no active run works on the order that was just created
  have others :
      ∀ {other : Nat} {value : Run uuid}, runs.get other = some value →
        value.stage.active = true → value.orderId ≠ run.orderId := by
    intro other value found isActive same
    obtain ⟨stored, member, storedId, _⟩ := owned.active found isActive
    apply created.fresh
    rw [← same, ← storedId]
    exact List.mem_map_of_mem member
  constructor
  · intro other value found isActive
    rw [appended]
    rcases Registry.cases_of_get_put found with ⟨_, rfl⟩ | ⟨_, stored⟩
    · refine ⟨row, List.mem_append_right _ (List.mem_singleton_self row),
        created.same, created.pending, created.stores⟩
    · obtain ⟨kept, member, facts⟩ := owned.active stored isActive
      exact ⟨kept, List.mem_append_left _ member, facts⟩
  · intro left right leftRun rightRun leftFound rightFound leftActive
      rightActive same
    rcases Registry.cases_of_get_put leftFound with
      ⟨isLeft, rfl⟩ | ⟨_, leftStored⟩
    · rcases Registry.cases_of_get_put rightFound with
      ⟨isRight, rfl⟩ | ⟨_, rightStored⟩
      · rw [isLeft, isRight]
      · exact absurd same.symm (others rightStored rightActive)
    · rcases Registry.cases_of_get_put rightFound with
      ⟨_, rfl⟩ | ⟨_, rightStored⟩
      · exact absurd same (others leftStored leftActive)
      · exact owned.alone leftStored rightStored leftActive rightActive same

theorem owned_of_settle {status : OrderStatus} {type : OrderEventType}
    {reason : OrderFailureReason} {rowId : UUID} {now : Nat}
    {result : Except Status CreateOrderResponse} (owned : Owned db runs)
    (running : runs.get id = some run) (isActive : run.stage.active = true)
    (settled : Settled run db status type reason rowId now next) :
    Owned next (runs.put id (run.goto (.returned result))) := by
  have moved : Owned db (runs.put id (run.goto (.returned result))) :=
    owned_put owned running rfl rfl (fun returned => nomatch returned)
  apply owned_mono moved
  intro other value found valueActive row stored same
  apply settled.mem_orders.mpr
  refine ⟨row, stored, ?_⟩
  rw [if_neg]
  intro mine
  -- another active run on the same order would be this one
  rcases Registry.cases_of_get_put found with ⟨_, rfl⟩ | ⟨notMe, other⟩
  · cases valueActive
  · have sameOrder := same.symm.trans mine
    exact notMe (owned.alone other running valueActive isActive sameOrder)

end Owned

structure Books (state : State uuid) : Prop where
  consistent : Consistent uuid state.db
  owned : Owned state.db state.runs

theorem books_empty : Books (State.empty uuid) where
  consistent := consistent_empty
  owned := by
    constructor
    · exact nofun
    · exact nofun

theorem Stage.active_of_call {run : Run uuid} {call : Call}
    (calls : run.call = some call) : run.stage.active = true := by
  unfold Run.call at calls
  split at calls
  case h_1 stage => rw [stage]; rfl
  case h_2 stage => rw [stage]; rfl
  case h_3 stage => rw [stage]; rfl
  case h_4 stage => rw [stage]; rfl
  case h_5 stage => rw [stage]; rfl
  all_goals cases calls

theorem Closes.closing {run : Run uuid} {status : OrderStatus}
    {acknowledged : Bool} {result : Except Status CreateOrderResponse}
    (closes : Closes run status type reason acknowledged result) :
    Closing status type ∧ run.stage.active = true := by
  cases closes with
  | confirmed stage => exact ⟨Or.inl ⟨rfl, rfl⟩, by rw [stage]; rfl⟩
  | failed stage => exact ⟨Or.inr ⟨rfl, rfl⟩, by rw [stage]; rfl⟩

theorem books_of_transition (books : Books state)
    (transition : Transition state label next) : Books next := by
  have owned := books.owned
  cases transition with
  | refused => exact ⟨books.consistent, ⟨owned.active, owned.alone⟩⟩
  | started request orderId => exact ⟨books.consistent, owned_launch owned rfl⟩
  | @performed id outcome rowId now run performed running done =>
      cases effect_of_perform done with
      | inserted _ _ committed =>
          obtain ⟨row, created⟩ := createOrder_ok committed
          exact ⟨consistent_of_create books.consistent created,
            owned_of_create owned created⟩
      | moved closes committed =>
          have settled := transition_ok committed
          obtain ⟨isClosing, isActive⟩ := closes.closing
          obtain ⟨row, stored, same, pending, stores⟩ :=
            owned.active running isActive
          exact
            ⟨consistent_of_settle books.consistent stored same pending stores
                isClosing settled,
              owned_of_settle owned running isActive settled⟩
      | duplicate =>
          exact ⟨books.consistent,
            owned_put owned running rfl rfl fun isActive => nomatch isActive⟩
      | nothing =>
          exact ⟨books.consistent,
            owned_put owned running rfl rfl fun isActive => nomatch isActive⟩
  | invoked running calls _ =>
      exact ⟨books.consistent,
        owned_put owned running rfl rfl fun isActive => isActive⟩
  | answered running calls _ =>
      exact ⟨books.consistent,
        owned_put owned running rfl rfl
          fun _ => Stage.active_of_call calls⟩
  | crashed running => exact ⟨books.consistent, owned_finish owned⟩

theorem books_of_run {labels : List Label} {final : State uuid}
    (books : Books state) (ran : run step state labels = some final) :
    Books final :=
  invariant_of_run
    (fun kept stepped => books_of_transition kept (transition_of_step stepped))
    books ran

/-- A step adds at most one event to the outbox. -/
theorem outbox_of_transition (transition : Transition state label next) :
    next.db.outbox = state.db.outbox ∨
      ∃ (run : Run uuid) (type : OrderEventType)
        (reason : OrderFailureReason) (rowId : UUID) (now : Nat),
        next.db.outbox =
          state.db.outbox ++
            [orderEventRow uuid run.order type reason rowId now] := by
  cases transition with
  | @performed id outcome rowId now run performed running done =>
      cases effect_of_perform done with
      | inserted _ _ committed =>
          obtain ⟨row, created⟩ := createOrder_ok committed
          exact Or.inr ⟨run, _, _, _, _, by rw [created.next]⟩
      | moved closes committed =>
          have settled := transition_ok committed
          exact Or.inr ⟨run, _, _, _, _, by rw [settled.next]⟩
      | duplicate => exact Or.inl rfl
      | nothing => exact Or.inl rfl
  | _ => exact Or.inl rfl

/-- The row is stored, is final, and has these announcements. -/
def Final (row : OrderRow) (events : List (Outbox.Row OrderEvent))
    (state : State uuid) : Prop :=
  row ∈ state.db.orders ∧ row.status ≠ .pending ∧
    announcements state.db row.id = events

theorem final_of_transition (books : Books state)
    (final : Final row events state)
    (transition : Transition state label next) : Final row events next := by
  obtain ⟨stored, notPending, isAbout⟩ := final
  have known : row.id ∈ state.db.orders.map OrderRow.id :=
    List.mem_map_of_mem stored
  cases transition with
  | @performed id outcome rowId now run performed running done =>
      cases effect_of_perform done with
      | inserted _ _ committed =>
          obtain ⟨new, created⟩ := createOrder_ok committed
          refine ⟨?_, notPending, ?_⟩
          · rw [created.next]
            exact List.mem_append_left _ stored
          · exact (created.announcements_old known).trans isAbout
      | moved closes committed =>
          have settled := transition_ok committed
          have isActive := closes.closing.2
          obtain ⟨own, ownStored, same, pending, _⟩ :=
            books.owned.active running isActive
          have different : row.id ≠ run.orderId := by
            intro equal
            have isOwn : row = own :=
              row_unique books.consistent.orderIds stored ownStored
                (equal.trans same.symm)
            rw [isOwn] at notPending
            exact notPending pending
          refine ⟨?_, notPending, ?_⟩
          · exact settled.mem_orders.mpr ⟨row, stored, if_neg different⟩
          · have unchanged := settled.announcements row.id
            rw [if_neg (Ne.symm different), List.append_nil] at unchanged
            exact unchanged.trans isAbout
      | duplicate => exact ⟨stored, notPending, isAbout⟩
      | nothing => exact ⟨stored, notPending, isAbout⟩
  | _ => exact ⟨stored, notPending, isAbout⟩

theorem final_of_run {labels : List Label} {final : State uuid}
    (books : Books state) (isFinal : Final row events state)
    (ran : run step state labels = some final) : Final row events final := by
  let kept : State uuid → Prop := fun state =>
    Books state ∧ Final row events state
  have preserved :
      ∀ {before after : State uuid} {label : Label},
        kept before → step before label = some after → kept after := by
    intro before after label held stepped
    have transition := transition_of_step stepped
    exact ⟨books_of_transition held.1 transition,
      final_of_transition held.1 held.2 transition⟩
  have atEnd : kept final := invariant_of_run preserved ⟨books, isFinal⟩ ran
  exact atEnd.2

/-- The announcements of an order other than its creation. -/
def further (db : Db) (id : UUID) : List (Outbox.Row OrderEvent) :=
  (announcements db id).filter fun event =>
    decide (event.payload.type ≠ .created)

def creations (db : Db) (id : UUID) : List (Outbox.Row OrderEvent) :=
  (announcements db id).filter fun event =>
    decide (event.payload.type = .created)

/-- The status of a row and its announcements say the same. -/
structure Agrees (db : Db) (row : OrderRow) : Prop where
  created : (creations db row.id).length = 1
  pending : row.status = .pending ↔ further db row.id = []
  confirmed :
    row.status = .confirmed ↔
      (∃ event, further db row.id = [event] ∧
          event.payload.type = .confirmed) ∧
        row.failureReason = none
  failed :
    row.status = .failed ↔
      ∃ event, further db row.id = [event] ∧
        event.payload.type = .failed ∧
        row.failureReason = some (reasonLabel event.payload.failureReason)

theorem agrees_of_announced
    (announced : Announced row (announcements db row.id)) : Agrees db row := by
  generalize events : announcements db row.id = list at announced
  have furtherEq :
      further db row.id =
        list.filter fun event => decide (event.payload.type ≠ .created) := by
    rw [further, events]
  have creationsEq :
      creations db row.id =
        list.filter fun event => decide (event.payload.type = .created) := by
    rw [creations, events]
  cases announced with
  | pending status first =>
      constructor <;> simp [furtherEq, creationsEq, first, status]
  | confirmed status reason first second =>
      constructor <;>
        simp [furtherEq, creationsEq, first, second, status, reason]
  | failed status reason first second =>
      constructor <;>
        simp [furtherEq, creationsEq, first, second, status, reason]

/-- Order status and announcements never disagree. -/
theorem status_agrees_with_announcements
    {labels : List Label} {state : State uuid}
    (ran : run step (State.empty uuid) labels = some state) :
    (∀ row ∈ state.db.orders,
      Agrees state.db row ∧
        ∀ event ∈ announcements state.db row.id, Repeats uuid event row) ∧
    (∀ event ∈ state.db.outbox,
      ∃ row ∈ state.db.orders, event ∈ announcements state.db row.id) ∧
    (∀ later final, run step state later = some final →
      ∀ row ∈ state.db.orders, row.status ≠ .pending →
        final.db.order row.id = some row ∧
          announcements final.db row.id = announcements state.db row.id) := by
  have books := books_of_run books_empty ran
  have consistent := books.consistent
  refine ⟨?_, ?_, ?_⟩
  · intro row stored
    exact ⟨agrees_of_announced (consistent.announced row stored),
      consistent.repeats row stored⟩
  · intro event stored
    obtain ⟨row, rowStored, same⟩ :=
      List.mem_map.mp (consistent.known event stored)
    refine ⟨row, rowStored, List.mem_filter.mpr ⟨stored, ?_⟩⟩
    exact decide_eq_true same.symm
  · intro later final ranLater row stored notPending
    have kept := final_of_run books ⟨stored, notPending, rfl⟩ ranLater
    have finalBooks := books_of_run books ranLater
    exact ⟨lookup_of_mem finalBooks.consistent.orderIds kept.1, kept.2.2⟩

-- An order that is confirmed, and the calls it makes on the way.
/-- A request of user 1 for seat 3 of event 2, in the canonical spelling. -/
def buyRequest (idempotencyKey : String) : CreateOrderRequest where
  userId := standardString 1
  eventId := standardString 2
  seatIds := [standardString 3]
  amountCents := 100
  idempotencyKey := idempotencyKey

/-- The labels by which run `id` confirms order 9. -/
def buyLabels (id : Nat) (req : CreateOrderRequest) : List Label :=
  [.start req 9, .database id .done 20 0,
    .invoke id, .answer id none, .invoke id, .answer id none,
    .invoke id, .answer id none, .database id .done 21 0]

theorem status_agrees_with_announcements_of_a_sale :
    ∃ state : State standardText,
      run step (State.empty standardText) (buyLabels 0 (buyRequest "")) =
          some state ∧
        ∃ row ∈ state.db.orders,
          row.status = .confirmed ∧ Agrees state.db row := by
  have ends :
      (run step (State.empty standardText) (buyLabels 0 (buyRequest ""))).any
          (fun state =>
            state.db.orders.any fun row =>
              decide (row.status = .confirmed)) = true := by
    decide +kernel
  obtain ⟨state, ran, checked⟩ := (Option.any_eq_true _ _).mp ends
  obtain ⟨row, stored, confirmed⟩ := List.any_eq_true.mp checked
  have agrees := (status_agrees_with_announcements ran).1 row stored
  exact ⟨state, ran, row, stored, of_decide_eq_true confirmed, agrees.1⟩

end TicketWave.Order
