import TicketWave.Kafka.Message
import TicketWave.Library.Registry
import TicketWave.Library.Runs
import TicketWave.Order.Model
import Mathlib.Algebra.BigOperators.Group.List.Basic

/-!
# The analytics projection

`services/analytics/internal/projection`, each transaction cut at its
statements.  `decode` stands for `DecodeOrderEvent`; `handled` only records the
messages whose call has committed or had nothing to count.
-/

namespace TicketWave.Analytics

open Library TicketWave.Order

@[ext]
structure Delta where
  ticketsSold : Int
  revenueCents : Int
  confirmed : Int
  failed : Int
  deriving DecidableEq, Repr

instance : Zero Delta :=
  ⟨⟨0, 0, 0, 0⟩⟩

instance : Add Delta :=
  ⟨fun left right =>
    { ticketsSold := left.ticketsSold + right.ticketsSold
      revenueCents := left.revenueCents + right.revenueCents
      confirmed := left.confirmed + right.confirmed
      failed := left.failed + right.failed }⟩

namespace Delta

@[simp]
theorem ticketsSold_zero : (0 : Delta).ticketsSold = 0 :=
  rfl

@[simp]
theorem revenueCents_zero : (0 : Delta).revenueCents = 0 :=
  rfl

@[simp]
theorem confirmed_zero : (0 : Delta).confirmed = 0 :=
  rfl

@[simp]
theorem failed_zero : (0 : Delta).failed = 0 :=
  rfl

variable (left right : Delta)

@[simp]
theorem ticketsSold_add :
    (left + right).ticketsSold = left.ticketsSold + right.ticketsSold :=
  rfl

@[simp]
theorem revenueCents_add :
    (left + right).revenueCents = left.revenueCents + right.revenueCents :=
  rfl

@[simp]
theorem confirmed_add :
    (left + right).confirmed = left.confirmed + right.confirmed :=
  rfl

@[simp]
theorem failed_add : (left + right).failed = left.failed + right.failed :=
  rfl

end Delta

instance : AddCommMonoid Delta where
  add_assoc left middle right := by
    apply Delta.ext <;> apply Int.add_assoc
  zero_add delta := by
    apply Delta.ext <;> apply Int.zero_add
  add_zero delta := by
    apply Delta.ext <;> apply Int.add_zero
  add_comm left right := by
    apply Delta.ext <;> apply Int.add_comm
  nsmul := nsmulRec

structure Change where
  messageId : UUID
  eventId : UUID
  delta : Delta
  deriving DecidableEq, Repr

/-- The errors of `parse`, all of them wrapped with `kafka.Permanent`. -/
inductive ParseError where
  | decode (cause : String)
  | invalidMessageId (text : String)
  | invalidEventId (text : String)
  deriving DecidableEq, Repr

/-- The switch over the event type. -/
def eventDelta (ev : OrderEvent) : Option Delta :=
  match ev.type with
  | .confirmed => some ⟨ev.seatIds.length, ev.amountCents, 1, 0⟩
  | .failed => some ⟨0, 0, 0, 1⟩
  | .unspecified | .created => none

section Parse

variable {Value : Type}

/-- `parse`; `none` is an event that changes nothing. -/
def parse (uuid : UuidText) (decode : Value → Except String OrderEvent)
    (msg : Kafka.Message Value) : Except ParseError (Option Change) :=
  match decode msg.value with
  | .error cause => .error (.decode cause)
  | .ok ev =>
      match eventDelta ev with
      | none => .ok none
      | some delta =>
          match uuid.parse ev.messageId with
          | none => .error (.invalidMessageId ev.messageId)
          | some messageId =>
              match uuid.parse ev.eventId with
              | none => .error (.invalidEventId ev.eventId)
              | some eventId => .ok (some ⟨messageId, eventId, delta⟩)

/-- What the messages change, one entry for each message that does. -/
def changes (uuid : UuidText) (decode : Value → Except String OrderEvent)
    (messages : List (Kafka.Message Value)) : List Change :=
  messages.filterMap fun msg => (parse uuid decode msg).toOption.join

end Parse

structure StatsRow where
  eventId : UUID
  counters : Delta
  deriving DecidableEq, Repr

structure Db where
  /-- the column `message_id` of `processed_messages` -/
  processed : List UUID
  eventStats : List StatsRow
  deriving DecidableEq, Repr

def Db.empty : Db :=
  ⟨[], []⟩

def Db.stats (db : Db) (event : UUID) : Option Delta :=
  (lookup StatsRow.eventId db.eventStats event).map StatsRow.counters

/-- The range of a `BIGINT` column. -/
def bigint (value : Int) : Bool :=
  decide (-9223372036854775808 ≤ value ∧ value ≤ 9223372036854775807)

def Delta.storable (delta : Delta) : Bool :=
  bigint delta.ticketsSold && bigint delta.revenueCents &&
    bigint delta.confirmed && bigint delta.failed

/-- The counters that the upsert leaves in the row. -/
def upserted (old : Option Delta) (delta : Delta) : Delta :=
  match old with
  | none => delta
  | some counters => counters + delta

/-- The row of the event now has these counters. -/
def Db.setStats (db : Db) (event : UUID) (counters : Delta) : Db :=
  if (db.stats event).isSome then
    { db with
      eventStats :=
        updateWhere (fun row => decide (row.eventId = event))
          (fun row => { row with counters := counters }) db.eventStats }
  else
    { db with eventStats := db.eventStats ++ [⟨event, counters⟩] }

def Db.addProcessed (db : Db) (messageId : UUID) : Db :=
  { db with processed := db.processed ++ [messageId] }

inductive Phase where
  /-- before the insert of the marker -/
  | begun
  /-- the marker was there: zero rows affected -/
  | skipping
  /-- the marker has been inserted -/
  | marked
  /-- the upsert has written these counters -/
  | counted (counters : Delta)
  deriving DecidableEq, Repr

structure Call (Value : Type) where
  msg : Kafka.Message Value
  change : Change
  phase : Phase

variable {Value : Type}

/-- The open transaction has inserted the marker of the message. -/
def Call.marks (call : Call Value) (messageId : UUID) : Bool :=
  match call.phase with
  | .begun | .skipping => false
  | .marked | .counted _ => decide (call.change.messageId = messageId)

/-- The open transaction has written the row of the event. -/
def Call.counts (call : Call Value) (event : UUID) : Bool :=
  match call.phase with
  | .begun | .skipping | .marked => false
  | .counted _ => decide (call.change.eventId = event)

def Call.goto (call : Call Value) (phase : Phase) : Call Value :=
  { call with phase := phase }

structure State (Value : Type) where
  db : Db
  calls : Registry (Call Value)
  handled : List (Kafka.Message Value)

def State.empty (Value : Type) : State Value where
  db := Db.empty
  calls := Registry.empty
  handled := []

def State.put (state : State Value) (id : Nat) (call : Call Value) :
    State Value :=
  { state with calls := state.calls.put id call }

/-- The transaction commits with the tables as given. -/
def State.commit (state : State Value) (id : Nat) (call : Call Value)
    (db : Db) : State Value where
  db := db
  calls := state.calls.finish id
  handled := call.msg :: state.handled

inductive Label (Value : Type) where
  /-- `Handle` is called -/
  | handle (msg : Kafka.Message Value)
  /-- the insert into `processed_messages` -/
  | mark (call : Nat)
  /-- the upsert of `event_stats` -/
  | count (call : Nat)
  | commit (call : Nat)
  | rollback (call : Nat)

def step (uuid : UuidText) (decode : Value → Except String OrderEvent)
    (state : State Value) : Label Value → Option (State Value)
  | .handle msg =>
      match parse uuid decode msg with
      | .error _ => some state
      | .ok none => some { state with handled := msg :: state.handled }
      | .ok (some change) =>
          some { state with calls := state.calls.launch ⟨msg, change, .begun⟩ }
  | .mark id =>
      match state.calls.get id with
      | some ⟨msg, change, .begun⟩ =>
          if state.calls.any fun other => other.marks change.messageId then
            none
          else if change.messageId ∈ state.db.processed then
            some (state.put id ⟨msg, change, .skipping⟩)
          else
            some (state.put id ⟨msg, change, .marked⟩)
      | _ => none
  | .count id =>
      match state.calls.get id with
      | some ⟨msg, change, .marked⟩ =>
          if state.calls.any fun other => other.counts change.eventId then
            none
          else
            let counters :=
              upserted (state.db.stats change.eventId) change.delta
            -- out of range is an error, and the transaction rolls back
            if counters.storable then
              some (state.put id ⟨msg, change, .counted counters⟩)
            else
              none
      | _ => none
  | .commit id =>
      match state.calls.get id with
      | some ⟨msg, change, .skipping⟩ =>
          some (state.commit id ⟨msg, change, .skipping⟩ state.db)
      | some ⟨msg, change, .counted counters⟩ =>
          some
            (state.commit id ⟨msg, change, .counted counters⟩
              ((state.db.addProcessed change.messageId).setStats
                change.eventId counters))
      | _ => none
  | .rollback id =>
      match state.calls.get id with
      | some _ => some { state with calls := state.calls.finish id }
      | none => none

inductive Transition
    (uuid : UuidText) (decode : Value → Except String OrderEvent)
    (state : State Value) : Label Value → State Value → Prop
  | failed {msg : Kafka.Message Value} :
      Transition uuid decode state (.handle msg) state
  | ignored
      {msg : Kafka.Message Value} (nothing : parse uuid decode msg = .ok none) :
      Transition uuid decode state (.handle msg)
        { state with handled := msg :: state.handled }
  | began
      {msg : Kafka.Message Value} {change : Change}
      (parsed : parse uuid decode msg = .ok (some change)) :
      Transition uuid decode state (.handle msg)
        { state with calls := state.calls.launch ⟨msg, change, .begun⟩ }
  | skipped
      {id : Nat} {call : Call Value}
      (found : state.calls.get id = some call)
      (known : call.change.messageId ∈ state.db.processed) :
      Transition uuid decode state (.mark id)
        (state.put id (call.goto .skipping))
  | marked
      {id : Nat} {call : Call Value}
      (found : state.calls.get id = some call)
      (phase : call.phase = .begun)
      (free :
        ∀ {other value}, state.calls.get other = some value →
          value.marks call.change.messageId = false)
      (fresh : call.change.messageId ∉ state.db.processed) :
      Transition uuid decode state (.mark id)
        (state.put id (call.goto .marked))
  | counted
      {id : Nat} {call : Call Value}
      (found : state.calls.get id = some call)
      (phase : call.phase = .marked)
      (free :
        ∀ {other value}, state.calls.get other = some value →
          value.counts call.change.eventId = false) :
      Transition uuid decode state (.count id)
        (state.put id
          (call.goto
            (.counted
              (upserted (state.db.stats call.change.eventId)
                call.change.delta))))
  | acknowledged
      {id : Nat} {call : Call Value}
      (found : state.calls.get id = some call)
      (phase : call.phase = .skipping) :
      Transition uuid decode state (.commit id)
        (state.commit id call state.db)
  | committed
      {id : Nat} {call : Call Value} {counters : Delta}
      (found : state.calls.get id = some call)
      (phase : call.phase = .counted counters) :
      Transition uuid decode state (.commit id)
        (state.commit id call
          ((state.db.addProcessed call.change.messageId).setStats
            call.change.eventId counters))
  | rolledBack {id : Nat} :
      Transition uuid decode state (.rollback id)
        { state with calls := state.calls.finish id }

theorem transition_of_step {uuid : UuidText}
    {decode : Value → Except String OrderEvent} {state next : State Value}
    {label : Label Value} (stepped : step uuid decode state label = some next) :
    Transition uuid decode state label next := by
  cases label with
  | handle msg =>
      simp only [step] at stepped
      split at stepped
      · cases stepped
        exact .failed
      · rename_i nothing
        cases stepped
        exact .ignored nothing
      · rename_i change parsed
        cases stepped
        exact .began parsed
  | mark id =>
      simp only [step] at stepped
      split at stepped
      · rename_i msg change found
        split at stepped
        · cases stepped
        · rename_i free
          split at stepped
          · rename_i known
            cases stepped
            exact .skipped found known
          · rename_i fresh
            cases stepped
            exact .marked found rfl (Registry.test_of_not_any free) fresh
      · cases stepped
  | count id =>
      simp only [step] at stepped
      split at stepped
      · rename_i msg change found
        split at stepped
        · cases stepped
        · rename_i free
          split at stepped
          · cases stepped
            exact .counted found rfl (Registry.test_of_not_any free)
          · cases stepped
      · cases stepped
  | commit id =>
      simp only [step] at stepped
      split at stepped
      · rename_i msg change found
        cases stepped
        exact .acknowledged found rfl
      · rename_i msg change counters found
        cases stepped
        exact .committed found rfl
      · cases stepped
  | rollback id =>
      simp only [step] at stepped
      split at stepped
      · cases stepped
        exact .rolledBack
      · cases stepped

end TicketWave.Analytics
