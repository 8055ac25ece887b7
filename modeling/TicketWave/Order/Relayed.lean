import TicketWave.Order.Lifecycle
import TicketWave.Outbox.Relay

/-!
# Orders and their publishers

order-svc and any number of outbox publishers on one database.
-/

namespace TicketWave.Order

open Library

variable {uuid : UuidText}

structure Relayed (uuid : UuidText) where
  service : State uuid
  publishers : Registry (Outbox.Tx OrderEvent)
  sent : List (Outbox.Event OrderEvent)

def Relayed.empty (uuid : UuidText) : Relayed uuid where
  service := State.empty uuid
  publishers := Registry.empty
  sent := []

def Relayed.outbox (system : Relayed uuid) : List (Outbox.Row OrderEvent) :=
  system.service.db.outbox

/-- What the publishers see. -/
def Relayed.relay (system : Relayed uuid) : Outbox.Relay OrderEvent where
  rows := system.outbox
  txs := system.publishers
  log := system.sent

def Relayed.withRelay (system : Relayed uuid)
    (relay : Outbox.Relay OrderEvent) : Relayed uuid where
  service :=
    { system.service with
      db := { system.service.db with outbox := relay.rows } }
  publishers := relay.txs
  sent := relay.log

inductive RelayedLabel where
  | service (label : Label)
  | publisher (label : Outbox.Label OrderEvent)

def Relayed.step (system : Relayed uuid) :
    RelayedLabel → Option (Relayed uuid)
  | .service label =>
      (Order.step system.service label).map fun next =>
        { system with service := next }
  -- rows are inserted by the service
  | .publisher (.insert _) => none
  | .publisher label => (Outbox.step system.relay label).map system.withRelay

inductive RelayedTransition (system : Relayed uuid) : Relayed uuid → Prop
  | served
      {label : Label} {next : State uuid}
      (transition : Transition system.service label next) :
      RelayedTransition system { system with service := next }
  | relayed
      {label : Outbox.Label OrderEvent} {next : Outbox.Relay OrderEvent}
      (transition : Outbox.Transition system.relay label next)
      (inserts : ∀ row, label ≠ .insert row) :
      RelayedTransition system (system.withRelay next)

variable {system next : Relayed uuid}

theorem relayedTransition_of_step {label : RelayedLabel}
    (stepped : system.step label = some next) :
    RelayedTransition system next := by
  unfold Relayed.step at stepped
  split at stepped
  · obtain ⟨after, serves, rfl⟩ := Option.map_eq_some_iff.mp stepped
    exact .served (transition_of_step serves)
  · cases stepped
  · rename_i label inserts
    obtain ⟨after, relays, rfl⟩ := Option.map_eq_some_iff.mp stepped
    exact .relayed (Outbox.transition_of_step relays) inserts

theorem parse_eventId_of_valid
    {req : CreateOrderRequest} (valid : validateCreateOrder uuid req = none) :
    ∃ event, uuid.parse req.eventId = some event := by
  obtain ⟨_, parsed, _⟩ := validateCreateOrder_eq_none_iff.mp valid
  exact Option.isSome_iff_exists.mp parsed

/-- A consumer can read the IDs of the event. -/
structure Legible (uuid : UuidText) (row : Outbox.Row OrderEvent) :
    Prop where
  messageId : row.payload.messageId = uuid.string row.id
  eventId : ∃ event, uuid.parse row.payload.eventId = some event

theorem legible_orderEventRow (run : Run uuid) (type : OrderEventType)
    (reason : OrderFailureReason) (rowId : UUID) (now : Nat) :
    Legible uuid (orderEventRow uuid run.order type reason rowId now) where
  messageId := rfl
  eventId := parse_eventId_of_valid run.request.valid

/-- The row with or without its mark. -/
def publishIf (ids : List UUID) (row : Outbox.Row OrderEvent) :
    Outbox.Row OrderEvent :=
  if decide (row.id ∈ ids) then row.publish else row

theorem key_publishIf (ids : List UUID) (row : Outbox.Row OrderEvent) :
    (publishIf ids row).key = row.key := by
  unfold publishIf
  split <;> rfl

theorem payload_publishIf (ids : List UUID) (row : Outbox.Row OrderEvent) :
    (publishIf ids row).payload = row.payload := by
  unfold publishIf
  split <;> rfl

theorem id_publishIf (ids : List UUID) (row : Outbox.Row OrderEvent) :
    (publishIf ids row).id = row.id := by
  unfold publishIf
  split <;> rfl

theorem announcements_publish (db : Db) (ids : List UUID) (id : UUID) :
    announcements { db with outbox := Outbox.markPublished ids db.outbox } id =
      (announcements db id).map (publishIf ids) := by
  have sameKey :
      (fun row : Outbox.Row OrderEvent => decide (row.key = id)) ∘
          publishIf ids =
        fun row => decide (row.key = id) := by
    funext row
    simp [key_publishIf]
  have unfolded :
      announcements
          { db with outbox := Outbox.markPublished ids db.outbox } id =
        (db.outbox.map (publishIf ids)).filter
          fun row => decide (row.key = id) :=
    rfl
  rw [unfolded, List.filter_map, sameKey]
  rfl

theorem announced_publish {row : OrderRow}
    {events : List (Outbox.Row OrderEvent)} (announced : Announced row events)
    (ids : List UUID) : Announced row (events.map (publishIf ids)) := by
  have sameType :
      ∀ (event : Outbox.Row OrderEvent) (type : OrderEventType),
        event.payload.type = type →
          (publishIf ids event).payload.type = type := by
    intro event type isType
    rw [payload_publishIf]
    exact isType
  cases announced with
  | pending status first => exact .pending status (sameType _ _ first)
  | confirmed status reason first second =>
      exact .confirmed status reason (sameType _ _ first) (sameType _ _ second)
  | failed status reason first second =>
      refine .failed status ?_ (sameType _ _ first) (sameType _ _ second)
      rw [payload_publishIf]
      exact reason

theorem repeats_publish {event : Outbox.Row OrderEvent} {row : OrderRow}
    (repeated : Repeats uuid event row) (ids : List UUID) :
    Repeats uuid (publishIf ids event) row := by
  unfold publishIf
  split
  · exact ⟨repeated.order, repeated.user, repeated.eventId, repeated.seats,
      repeated.amount, repeated.name⟩
  · exact repeated

theorem consistent_publish
    {db : Db} (consistent : Consistent uuid db) (ids : List UUID) :
    Consistent uuid
      { db with outbox := Outbox.markPublished ids db.outbox } where
  orderIds := consistent.orderIds
  outboxIds := by
    rw [Outbox.markPublished_ids]
    exact consistent.outboxIds
  known := by
    intro event member
    obtain ⟨old, stored, rfl⟩ := List.mem_map.mp member
    have same := key_publishIf ids old
    unfold publishIf at same
    rw [same]
    exact consistent.known old stored
  keys := consistent.keys
  announced := by
    intro row stored
    rw [announcements_publish]
    exact announced_publish (consistent.announced row stored) ids
  repeats := by
    intro row stored event isAbout
    rw [announcements_publish] at isAbout
    obtain ⟨old, oldIsAbout, rfl⟩ := List.mem_map.mp isAbout
    exact repeats_publish (consistent.repeats row stored old oldIsAbout) ids

/-- The payload is that of an outbox row. -/
def InOutbox
    (outbox : List (Outbox.Row OrderEvent)) (event : OrderEvent) : Prop :=
  ∃ row ∈ outbox, row.payload = event

structure Faithful (system : Relayed uuid) : Prop where
  books : Books system.service
  legible : ∀ row ∈ system.outbox, Legible uuid row
  selected :
    ∀ {id tx}, system.publishers.get id = some tx →
      ∀ row ∈ tx.rows, InOutbox system.outbox row.payload
  sent :
    ∀ event ∈ system.sent, ∀ row ∈ event.rows,
      InOutbox system.outbox row.payload

theorem faithful_empty : Faithful (Relayed.empty uuid) where
  books := books_empty
  legible := nofun
  selected := nofun
  sent := nofun

theorem InOutbox.append {outbox added : List (Outbox.Row OrderEvent)}
    {event : OrderEvent} (isIn : InOutbox outbox event) :
    InOutbox (outbox ++ added) event := by
  obtain ⟨row, stored, same⟩ := isIn
  exact ⟨row, List.mem_append_left _ stored, same⟩

theorem InOutbox.publish {outbox : List (Outbox.Row OrderEvent)}
    {event : OrderEvent} (isIn : InOutbox outbox event) (ids : List UUID) :
    InOutbox (Outbox.markPublished ids outbox) event := by
  obtain ⟨row, stored, same⟩ := isIn
  exact ⟨publishIf ids row, List.mem_map_of_mem stored,
    (payload_publishIf ids row).trans same⟩

theorem inOutbox_of_transition (transition : RelayedTransition system next)
    {event : OrderEvent} (isIn : InOutbox system.outbox event) :
    InOutbox next.outbox event := by
  cases transition with
  | @served label after transition =>
      rcases outbox_of_transition transition with
        same | ⟨run, type, reason, rowId, now, added⟩
      · show InOutbox after.db.outbox event
        rw [same]
        exact isIn
      · show InOutbox after.db.outbox event
        rw [added]
        exact isIn.append
  | relayed transition inserts =>
      cases transition with
      | inserted => exact absurd rfl (inserts _)
      | committed found phase isOpen => exact isIn.publish _
      | _ => exact isIn

theorem faithful_of_service {label : Label} {next : State uuid}
    (faithful : Faithful system)
    (transition : Transition system.service label next) :
    Faithful { system with service := next } := by
  have grows :
      ∀ {event}, InOutbox system.outbox event → InOutbox next.db.outbox event :=
    inOutbox_of_transition (.served transition)
  refine ⟨books_of_transition faithful.books transition, ?_, ?_, ?_⟩
  · intro row member
    have stored : row ∈ next.db.outbox := member
    rcases outbox_of_transition transition with
      same | ⟨run, type, reason, rowId, now, added⟩
    · rw [same] at stored
      exact faithful.legible row stored
    · rw [added] at stored
      rcases List.mem_append.mp stored with old | new
      · exact faithful.legible row old
      · rw [List.mem_singleton.mp new]
        exact legible_orderEventRow run type reason rowId now
  · intro id tx found row member
    exact grows (faithful.selected found row member)
  · intro event logged row member
    exact grows (faithful.sent event logged row member)

theorem faithful_of_publishers {txs : Registry (Outbox.Tx OrderEvent)}
    {log : List (Outbox.Event OrderEvent)} (faithful : Faithful system)
    (selected :
      ∀ {id tx}, txs.get id = some tx →
        ∀ row ∈ tx.rows, InOutbox system.outbox row.payload)
    (sent :
      ∀ event ∈ log, ∀ row ∈ event.rows, InOutbox system.outbox row.payload) :
    Faithful (system.withRelay ⟨system.outbox, txs, log⟩) :=
  ⟨faithful.books, faithful.legible, selected, sent⟩

theorem faithful_of_relay {label : Outbox.Label OrderEvent}
    {next : Outbox.Relay OrderEvent} (faithful : Faithful system)
    (transition : Outbox.Transition system.relay label next)
    (inserts : ∀ row, label ≠ .insert row) :
    Faithful (system.withRelay next) := by
  have advanced :
      ∀ {id : Nat} {tx : Outbox.Tx OrderEvent} {phase : Outbox.Phase}
        {isOpen : Bool},
        system.publishers.get id = some tx →
          ∀ {other : Nat} {value : Outbox.Tx OrderEvent},
            (system.publishers.put id ⟨tx.rows, phase, isOpen⟩).get other =
                some value →
              ∀ row ∈ value.rows, InOutbox system.outbox row.payload := by
    intro id tx phase isOpen found other value isFound row member
    rcases Registry.cases_of_get_put isFound with ⟨_, rfl⟩ | ⟨_, stored⟩
    · exact faithful.selected found row member
    · exact faithful.selected stored row member
  have logged :
      ∀ {id : Nat} {tx : Outbox.Tx OrderEvent} (kind : Outbox.Kind),
        system.publishers.get id = some tx →
          ∀ event ∈ ⟨kind, id, tx.rows⟩ :: system.sent,
            ∀ row ∈ event.rows, InOutbox system.outbox row.payload := by
    intro id tx kind found event member
    rcases List.mem_cons.mp member with rfl | old
    · exact faithful.selected found
    · exact faithful.sent event old
  cases transition with
  | inserted => exact absurd rfl (inserts _)
  | nothing =>
      exact faithful_of_publishers faithful faithful.selected faithful.sent
  | @selected taken reads unlocked =>
      apply faithful_of_publishers faithful _ faithful.sent
      intro id tx found row member
      rcases Registry.cases_of_get_launch found with ⟨_, rfl⟩ | stored
      · have inTable := (Outbox.mem_pending.mp (reads.subset member)).1
        exact ⟨row, inTable, rfl⟩
      · exact faithful.selected stored row member
  | handed found phase =>
      exact faithful_of_publishers faithful (advanced found) (logged _ found)
  | accepted found phase =>
      exact faithful_of_publishers faithful (advanced found)
        (logged .accepted found)
  | updated found phase isOpen | dropped found =>
      exact faithful_of_publishers faithful (advanced found) faithful.sent
  | @committed id tx found phase isOpen =>
      refine ⟨⟨consistent_publish faithful.books.consistent tx.ids,
          ⟨faithful.books.owned.active, faithful.books.owned.alone⟩⟩,
        ?_, ?_, ?_⟩
      · intro row member
        obtain ⟨old, stored, rfl⟩ := List.mem_map.mp member
        have legible := faithful.legible old stored
        exact ⟨(congrArg OrderEvent.messageId
            (payload_publishIf tx.ids old)).trans
            (legible.messageId.trans
              (congrArg uuid.string (id_publishIf tx.ids old).symm)),
          (payload_publishIf tx.ids old).symm ▸ legible.eventId⟩
      · intro other value isFound row member
        have stored := (Registry.get_of_get_finish isFound).2
        exact (faithful.selected stored row member).publish tx.ids
      · intro event member row sentRow
        exact (logged .committed found event member row sentRow).publish tx.ids
  | aborted found =>
      apply faithful_of_publishers faithful _ faithful.sent
      intro other value isFound
      exact faithful.selected (Registry.get_of_get_finish isFound).2

theorem faithful_of_transition (faithful : Faithful system)
    (transition : RelayedTransition system next) : Faithful next := by
  cases transition with
  | served transition => exact faithful_of_service faithful transition
  | relayed transition inserts =>
      exact faithful_of_relay faithful transition inserts

end TicketWave.Order
