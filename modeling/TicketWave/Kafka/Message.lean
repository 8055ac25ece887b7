import TicketWave.Library.Topic

/-!
# Kafka messages

A record carries a list of headers; a `Message` holds them as a map.
-/

namespace TicketWave.Kafka

open Library

/-- What a record of kafka-go carries besides its place in the topic. -/
structure Content (Value : Type) where
  key : String
  value : Value
  headers : List (String × String)
  deriving DecidableEq, Repr

structure Message (Value : Type) where
  topic : String
  partition : Nat
  offset : Nat
  key : String
  value : Value
  headers : List (String × String)
  deriving DecidableEq, Repr

variable {Value : Type}

/-- `headers[name] = value` -/
def setHeader (headers : List (String × String)) (name value : String) :
    List (String × String) :=
  if headers.any fun header => decide (header.1 = name) then
    headers.map fun header => if header.1 = name then (name, value) else header
  else
    headers ++ [(name, value)]

def fromKafka (topic : String) (record : Record (Content Value)) :
    Message Value where
  topic := topic
  partition := record.partition
  offset := record.offset
  key := record.payload.key
  value := record.payload.value
  headers :=
    record.payload.headers.foldl
      (fun headers header => setHeader headers header.1 header.2) []

/-- The message that `deadLetter` publishes. -/
def deadMessage (msg : Message Value) (attempts : Nat) (cause : String) :
    Message Value where
  topic := ""
  partition := 0
  offset := 0
  key := msg.key
  value := msg.value
  headers :=
    [("dlq-error", cause), ("dlq-attempts", toString attempts),
      ("dlq-source-topic", msg.topic),
      ("dlq-source-partition", toString msg.partition),
      ("dlq-source-offset", toString msg.offset)].foldl
        (fun headers header => setHeader headers header.1 header.2)
        msg.headers

end TicketWave.Kafka
