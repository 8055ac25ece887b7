import TicketWave.Kafka.Producer
import TicketWave.Library.Text

/-!
# What a dead letter keeps

With distinct names the headers are the same list at each stage, up to order.
-/

namespace TicketWave.Kafka

open Library

variable {Value : Type}

/-- No two headers have one name. -/
def Distinct (headers : List (String × String)) : Prop :=
  (headers.map Prod.fst).Nodup

instance (headers : List (String × String)) : Decidable (Distinct headers) :=
  inferInstanceAs (Decidable (headers.map Prod.fst).Nodup)

theorem Distinct.of_perm {left right : List (String × String)}
    (distinct : Distinct right) (order : left.Perm right) : Distinct left :=
  (order.map Prod.fst).nodup_iff.mpr distinct

theorem setHeader_of_new {headers : List (String × String)} {name : String}
    (value : String) (new : name ∉ headers.map Prod.fst) :
    setHeader headers name value = headers ++ [(name, value)] := by
  have absent :
      ¬ (headers.any fun header => decide (header.1 = name)) = true := by
    intro present
    obtain ⟨header, member, isName⟩ := List.any_eq_true.mp present
    exact new (List.mem_map.mpr ⟨header, member, of_decide_eq_true isName⟩)
  rw [setHeader, if_neg absent]

theorem foldl_setHeader_of_distinct {before headers : List (String × String)}
    (distinct : Distinct (before ++ headers)) :
    headers.foldl (fun headers header => setHeader headers header.1 header.2)
        before =
      before ++ headers := by
  induction headers generalizing before with
  | nil => rw [List.foldl_nil, List.append_nil]
  | cons header rest ih =>
      have split : before ++ header :: rest = (before ++ [header]) ++ rest :=
        by rw [List.append_assoc, List.singleton_append]
      have new : header.1 ∉ before.map Prod.fst := by
        intro earlier
        rw [Distinct, List.map_append, List.nodup_append] at distinct
        exact distinct.2.2 header.1 earlier header.1
          (List.mem_map_of_mem List.mem_cons_self) rfl
      rw [split] at distinct
      rw [List.foldl_cons, setHeader_of_new header.2 new, ih distinct, split]

theorem lookup_of_distinct {headers : List (String × String)}
    (distinct : Distinct headers) {header : String × String}
    (member : header ∈ headers) : headers.lookup header.1 = some header.2 := by
  obtain ⟨before, after, rfl⟩ := List.append_of_mem member
  rw [Distinct, List.map_append, List.map_cons, List.nodup_append] at distinct
  refine List.lookup_eq_some_iff.mpr ⟨before, after, rfl, ?_⟩
  intro other earlier
  have differs : other.1 ≠ header.1 :=
    distinct.2.2 other.1 (List.mem_map_of_mem earlier) header.1
      List.mem_cons_self
  exact bne_iff_ne.mpr differs.symm

/-- `toKafka` when `range` goes through the map of headers in this order. -/
def toKafkaIn (order : List (String × String)) (msg : Message Value) :
    Content Value :=
  { toKafka msg with headers := order }

theorem headers_fromKafka {record : Record (Content Value)}
    (distinct : Distinct record.payload.headers) (topic : String) :
    (fromKafka topic record).headers = record.payload.headers :=
  foldl_setHeader_of_distinct distinct

def deadHeaders (msg : Message Value) (attempts : Nat) (cause : String) :
    List (String × String) :=
  [("dlq-error", cause), ("dlq-attempts", toString attempts),
    ("dlq-source-topic", msg.topic),
    ("dlq-source-partition", toString msg.partition),
    ("dlq-source-offset", toString msg.offset)]

def deadNames : List String :=
  ["dlq-error", "dlq-attempts", "dlq-source-topic", "dlq-source-partition",
    "dlq-source-offset"]

theorem distinct_deadHeaders
    {msg : Message Value} (distinct : Distinct msg.headers)
    (unused : ∀ name ∈ deadNames, name ∉ msg.headers.map Prod.fst)
    (attempts : Nat) (cause : String) :
    Distinct (msg.headers ++ deadHeaders msg attempts cause) := by
  have names : (deadHeaders msg attempts cause).map Prod.fst = deadNames := rfl
  rw [Distinct, List.map_append, names, List.nodup_append]
  refine ⟨distinct, by decide, ?_⟩
  rintro name own _ dead rfl
  exact unused name dead own

theorem headers_deadMessage_of_distinct
    {msg : Message Value} (distinct : Distinct msg.headers)
    (unused : ∀ name ∈ deadNames, name ∉ msg.headers.map Prod.fst)
    (attempts : Nat) (cause : String) :
    (deadMessage msg attempts cause).headers =
      msg.headers ++ deadHeaders msg attempts cause :=
  foldl_setHeader_of_distinct
    (distinct_deadHeaders distinct unused attempts cause)

theorem lookup_dead (msg : Message Value) (distinct : Distinct msg.headers)
    (unused : ∀ name ∈ deadNames, name ∉ msg.headers.map Prod.fst)
    {attempts : Nat} {cause : String} {written : List (String × String)}
    (order : written.Perm (deadMessage msg attempts cause).headers)
    (topic : String) (partition offset : Nat) {header : String × String}
    (member : header ∈ msg.headers ++ deadHeaders msg attempts cause) :
    (fromKafka topic
        ⟨partition, offset,
          toKafkaIn written
            (deadMessage msg attempts cause)⟩).headers.lookup header.1 =
      some header.2 := by
  rw [headers_deadMessage_of_distinct distinct unused attempts cause] at order
  have writtenDistinct : Distinct written :=
    (distinct_deadHeaders distinct unused attempts cause).of_perm order
  rw [headers_fromKafka writtenDistinct]
  exact lookup_of_distinct writtenDistinct (order.mem_iff.mpr member)

/-- A dead letter has the key, the value and all headers of the message, and
says where the message was. -/
theorem dead_letter_loses_nothing (topic : String)
    (record : Record (Content Value))
    (distinct : Distinct record.payload.headers)
    (unused : ∀ name ∈ deadNames, name ∉ record.payload.headers.map Prod.fst)
    (attempts : Nat) (cause : String) {copied written : List (String × String)}
    (copy : copied.Perm (fromKafka topic record).headers)
    (order :
      written.Perm
        (deadMessage { fromKafka topic record with headers := copied }
          attempts cause).headers) (deadTopic : String)
    (partition offset : Nat) :
    let dead :=
      fromKafka deadTopic
        ⟨partition, offset,
          toKafkaIn written
            (deadMessage { fromKafka topic record with headers := copied }
              attempts cause)⟩
    dead.key = record.payload.key ∧
      dead.value = record.payload.value ∧
      (∀ header ∈ record.payload.headers,
        dead.headers.lookup header.1 = some header.2) ∧
      dead.headers.lookup "dlq-source-topic" = some topic ∧
      (dead.headers.lookup "dlq-source-partition").bind readDecimal =
        some record.partition ∧
      (dead.headers.lookup "dlq-source-offset").bind readDecimal =
        some record.offset := by
  intro dead
  let msg : Message Value := { fromKafka topic record with headers := copied }
  rw [headers_fromKafka distinct] at copy
  have copiedUnused :
      ∀ name ∈ deadNames, name ∉ copied.map Prod.fst := by
    intro name isDead own
    exact unused name isDead ((copy.map Prod.fst).mem_iff.mp own)
  have found :
      ∀ header ∈ copied ++ deadHeaders msg attempts cause,
        dead.headers.lookup header.1 = some header.2 :=
    fun header member =>
      lookup_dead msg (distinct.of_perm copy) copiedUnused order deadTopic
        partition offset member
  have added :
      ∀ header ∈ deadHeaders msg attempts cause,
        dead.headers.lookup header.1 = some header.2 :=
    fun header member => found header (List.mem_append_right copied member)
  have isTopic : dead.headers.lookup "dlq-source-topic" = some topic :=
    added ("dlq-source-topic", topic) (by simp [deadHeaders, msg, fromKafka])
  have isPartition :
      dead.headers.lookup "dlq-source-partition" =
        some (toString record.partition) :=
    added ("dlq-source-partition", toString record.partition)
      (by simp [deadHeaders, msg, fromKafka])
  have isOffset :
      dead.headers.lookup "dlq-source-offset" = some (toString record.offset) :=
    added ("dlq-source-offset", toString record.offset)
      (by simp [deadHeaders, msg, fromKafka])
  refine ⟨rfl, rfl, ?_, isTopic, ?_, ?_⟩
  · intro header member
    exact found header (List.mem_append_left _ (copy.mem_iff.mpr member))
  · rw [isPartition]
    exact readDecimal_toString record.partition
  · rw [isOffset]
    exact readDecimal_toString record.offset

-- An order event with two headers that is given up after three attempts; the
-- map is read backwards both times.
private def parked : Record (Content String) :=
  ⟨3, 41, ⟨"order-7", "not json", [("event-type", "order.created"),
    ("traceparent", "00-ab-cd-01")]⟩⟩

private def parkedAgain : Message String :=
  { fromKafka "orders" parked with headers := parked.payload.headers.reverse }

theorem dead_letter_loses_nothing_of_an_order_event :
    let dead :=
      fromKafka "orders.dlq"
        ⟨0, 5,
          toKafkaIn (deadMessage parkedAgain 3 "bad json").headers.reverse
            (deadMessage parkedAgain 3 "bad json")⟩
    dead.key = "order-7" ∧
      dead.headers.lookup "traceparent" = some "00-ab-cd-01" ∧
      (dead.headers.lookup "dlq-source-offset").bind readDecimal = some 41 := by
  have headers : (fromKafka "orders" parked).headers = parked.payload.headers :=
    headers_fromKafka (by decide) "orders"
  have copy :
      parkedAgain.headers.Perm (fromKafka "orders" parked).headers := by
    rw [headers]
    exact List.reverse_perm _
  obtain ⟨isKey, _, kept, _, _, isOffset⟩ :=
    dead_letter_loses_nothing "orders" parked (by decide) (by decide) 3
      "bad json" copy (List.reverse_perm _) "orders.dlq" 0 5
  have isTrace :=
    kept ("traceparent", "00-ab-cd-01")
      (List.mem_cons_of_mem _ List.mem_cons_self)
  exact ⟨isKey, isTrace, isOffset⟩

end TicketWave.Kafka
