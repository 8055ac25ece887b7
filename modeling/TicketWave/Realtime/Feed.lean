import TicketWave.Inventory.SeatRows
import TicketWave.Realtime.Subscribers

/-!
# From seat events to subscriptions

One process of realtime-svc: `kafka.Tail` reads the topic from where it ended
when the start offset was resolved, and browsers may connect before that.
-/

namespace TicketWave.Realtime

open Library TicketWave.Inventory

/-- `Handler` of the feed: the arguments of the call of `Publish`, if it comes
to one. -/
def handler (e : SeatEvent) : Option (String × Update) :=
  if e.eventId = "" ∨ e.seatIds.length = 0 then
    none
  else
    some (e.eventId, { seatIds := e.seatIds, state := seatStateName e.state })

/-- The update that a row becomes. -/
def updateOf (row : Outbox.Row SeatEvent) : Update where
  seatIds := row.payload.seatIds
  state := seatStateName row.payload.state

theorem handler_eq {uuid : UuidText} {db : Db} {row : Outbox.Row SeatEvent}
    (blank : uuid.column "" = none) (told : Told uuid db row) :
    handler row.payload = some (row.payload.eventId, updateOf row) := by
  have named : row.payload.eventId ≠ "" := by
    intro empty
    have read := told.named
    rw [empty, blank] at read
    cases read
  have counted : row.payload.seatIds.length ≠ 0 := by
    rw [List.length_eq_zero_iff.ne]
    exact told.nonempty
  rw [handler, if_neg (not_or.mpr ⟨named, counted⟩)]
  rfl

inductive Visit where
  /-- the response has begun, `onopen` is to come -/
  | connected
  /-- `onopen` has asked for the seat list -/
  | asking
  /-- the list was read, when the outbox had `taken` rows -/
  | listed (taken : Nat)
  deriving DecidableEq, Repr

structure Connection where
  eventId : String
  subscription : Nat
  visit : Visit
  deriving DecidableEq, Repr

structure Process (uuid : UuidText) where
  inventory : Inventory.State uuid
  /-- the messages of the topic, as the rows they were made from -/
  topic : List (Outbox.Row SeatEvent)
  /-- the offset of the next message, once the start offset is resolved -/
  tail : Option Nat
  hub : Hub
  connections : Registry Connection

variable {uuid : UuidText}

def Process.new (uuid : UuidText) (max : Int) : Process uuid where
  inventory := Inventory.State.empty uuid
  topic := []
  tail := none
  hub := Hub.new max
  connections := Registry.empty

def Process.outbox (process : Process uuid) : List (Outbox.Row SeatEvent) :=
  process.inventory.db.outbox

inductive Move where
  | service (label : Inventory.Label)
  /-- the publisher writes the message of a row -/
  | relay (index : Nat)
  /-- `LastOffset` is resolved -/
  | resolve
  /-- `ReadMessage` returns and the handler runs -/
  | consume
  /-- a request for the stream -/
  | connect (eventId : String)
  | opens (connection : Nat)
  | list (connection : Nat)
  /-- the handler takes an update off the channel -/
  | receive (connection : Nat)
  /-- the handler returns, which closes the subscription -/
  | leave (connection : Nat)
  /-- the hub is closed on shutdown -/
  | shutdown

/-- The connection has come so far. -/
def Process.advance (process : Process uuid) (id : Nat)
    (connection : Connection) (visit : Visit) : Process uuid :=
  { process with
    connections :=
      process.connections.put id { connection with visit := visit } }

def Process.step (process : Process uuid) : Move → Option (Process uuid)
  | .service label =>
      (Inventory.step process.inventory label).map fun inventory =>
        { process with inventory := inventory }
  | .relay index =>
      match process.outbox[index]? with
      | none => none
      | some row => some { process with topic := process.topic ++ [row] }
  | .resolve =>
      match process.tail with
      | some _ => none
      | none => some { process with tail := some process.topic.length }
  | .consume =>
      match process.tail with
      | none => none
      | some offset =>
          match process.topic[offset]? with
          | none => none
          | some row =>
              match handler row.payload with
              | none => some { process with tail := some (offset + 1) }
              | some (eventId, update) =>
                  (process.hub.step (.publish eventId update)).map fun hub =>
                    { process with tail := some (offset + 1), hub := hub }
  | .connect eventId =>
      match uuid.parse eventId with
      -- 400
      | none => some process
      | some _ =>
          match (process.hub.subscribe eventId).2 with
          -- 503
          | none => some process
          | some id =>
              some
                { process with
                  hub := (process.hub.subscribe eventId).1
                  connections :=
                    process.connections.launch
                      ⟨eventId, id, .connected⟩ }
  | .opens id =>
      match process.connections.get id with
      | some ⟨eventId, subscription, .connected⟩ =>
          some
            (process.advance id ⟨eventId, subscription, .connected⟩ .asking)
      | _ => none
  | .list id =>
      match process.connections.get id with
      | some ⟨eventId, subscription, .asking⟩ =>
          some
            (process.advance id ⟨eventId, subscription, .asking⟩
              (.listed process.outbox.length))
      | _ => none
  | .receive id =>
      match process.connections.get id with
      | none => none
      | some connection =>
          (process.hub.step (.receive connection.subscription)).map
            fun hub => { process with hub := hub }
  | .leave id =>
      match process.connections.get id with
      | none => none
      | some connection =>
          (process.hub.step (.unsubscribe connection.subscription)).map
            fun hub => { process with hub := hub }
  | .shutdown =>
      (process.hub.step .close).map fun hub => { process with hub := hub }

inductive Happens (process : Process uuid) : Move → Process uuid → Prop
  | served
      {label : Inventory.Label} {inventory : Inventory.State uuid}
      (stepped : Inventory.step process.inventory label = some inventory) :
      Happens process (.service label) { process with inventory := inventory }
  | relayed
      {index : Nat} {row : Outbox.Row SeatEvent}
      (committed : process.outbox[index]? = some row) :
      Happens process (.relay index)
        { process with topic := process.topic ++ [row] }
  | resolved (unresolved : process.tail = none) :
      Happens process .resolve
        { process with tail := some process.topic.length }
  | skipped
      {offset : Nat} {row : Outbox.Row SeatEvent}
      (position : process.tail = some offset)
      (next : process.topic[offset]? = some row)
      (nothing : handler row.payload = none) :
      Happens process .consume { process with tail := some (offset + 1) }
  | published
      {offset : Nat} {row : Outbox.Row SeatEvent} {eventId : String}
      {update : Update} {hub : Hub}
      (position : process.tail = some offset)
      (next : process.topic[offset]? = some row)
      (sent : handler row.payload = some (eventId, update))
      (stepped : process.hub.step (.publish eventId update) = some hub) :
      Happens process .consume
        { process with tail := some (offset + 1), hub := hub }
  | turnedAway (eventId : String) : Happens process (.connect eventId) process
  | connected
      {eventId : String} {id : Nat}
      (subscribed : (process.hub.subscribe eventId).2 = some id) :
      Happens process (.connect eventId)
        { process with
          hub := (process.hub.subscribe eventId).1
          connections :=
            process.connections.launch ⟨eventId, id, .connected⟩ }
  | opened
      {id : Nat} {connection : Connection}
      (found : process.connections.get id = some connection) :
      Happens process (.opens id) (process.advance id connection .asking)
  | listed
      {id : Nat} {connection : Connection}
      (found : process.connections.get id = some connection) :
      Happens process (.list id)
        (process.advance id connection (.listed process.outbox.length))
  | hub
      {move : Move} {label : Label} {hub : Hub}
      (quiet :
        label = .close ∨ ∃ id, label = .receive id ∨ label = .unsubscribe id)
      (stepped : process.hub.step label = some hub) :
      Happens process move { process with hub := hub }

theorem happens_of_step {process next : Process uuid} {move : Move}
    (stepped : process.step move = some next) : Happens process move next := by
  cases move with
  | service label =>
      obtain ⟨inventory, served, rfl⟩ := Option.map_eq_some_iff.mp stepped
      exact .served served
  | relay index =>
      simp only [Process.step] at stepped
      split at stepped
      · cases stepped
      · rename_i row committed
        cases stepped
        exact .relayed committed
  | resolve =>
      simp only [Process.step] at stepped
      split at stepped
      · cases stepped
      · rename_i unresolved
        cases stepped
        exact .resolved unresolved
  | consume =>
      simp only [Process.step] at stepped
      split at stepped
      · cases stepped
      · rename_i offset position
        split at stepped
        · cases stepped
        · rename_i row isNext
          split at stepped
          · rename_i nothing
            cases stepped
            exact .skipped position isNext nothing
          · rename_i eventId update sent
            obtain ⟨hub, moved, rfl⟩ := Option.map_eq_some_iff.mp stepped
            exact .published position isNext sent moved
  | connect eventId =>
      simp only [Process.step] at stepped
      split at stepped
      · cases stepped
        exact .turnedAway eventId
      · split at stepped
        · cases stepped
          exact .turnedAway eventId
        · rename_i id subscribed
          cases stepped
          exact .connected subscribed
  | opens id =>
      simp only [Process.step] at stepped
      split at stepped
      · rename_i found
        cases stepped
        exact .opened found
      · cases stepped
  | list id =>
      simp only [Process.step] at stepped
      split at stepped
      · rename_i found
        cases stepped
        exact .listed found
      · cases stepped
  | receive id =>
      simp only [Process.step] at stepped
      split at stepped
      · cases stepped
      · obtain ⟨hub, moved, rfl⟩ := Option.map_eq_some_iff.mp stepped
        exact .hub (Or.inr ⟨_, Or.inl rfl⟩) moved
  | leave id =>
      simp only [Process.step] at stepped
      split at stepped
      · cases stepped
      · obtain ⟨hub, moved, rfl⟩ := Option.map_eq_some_iff.mp stepped
        exact .hub (Or.inr ⟨_, Or.inr rfl⟩) moved
  | shutdown =>
      obtain ⟨hub, moved, rfl⟩ := Option.map_eq_some_iff.mp stepped
      exact .hub (Or.inl rfl) moved

end TicketWave.Realtime
