import TicketWave.Uuid

/-!
# The outbox table

`key` is the column whose value becomes the Kafka key, and the payload is the
message itself rather than its JSON text.
-/

namespace TicketWave.Outbox

/-- One row of an outbox table.  `createdAt` is `now()`, the start of the
inserting transaction. -/
structure Row (Payload : Type) where
  id : UUID
  key : UUID
  eventType : String
  payload : Payload
  published : Bool
  createdAt : Nat
  deriving DecidableEq, Repr

/-- `INSERT INTO outbox`: refused when the primary key is taken. -/
def insert {Payload : Type} (rows : List (Row Payload)) (row : Row Payload) :
    Option (List (Row Payload)) :=
  if row.id ∈ rows.map Row.id then none else some (rows ++ [row])

end TicketWave.Outbox
