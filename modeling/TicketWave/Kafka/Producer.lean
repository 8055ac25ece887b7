import TicketWave.Kafka.Message
import Mathlib.Data.List.Basic

/-!
# The Kafka producer

`retryUnknownTopic` around `WriteMessages`.  A bare error means that nothing
was stored, and a nil entry in a vector that its message was.
-/

namespace TicketWave.Kafka

variable {Value : Type}

/-- An error of kafka-go, as far as `errors.Is` tells. -/
inductive WriteError where
  | unknownTopicOrPartition
  | other (text : String)
  deriving DecidableEq, Repr

/-- What `WriteMessages` returns. -/
inductive WriteResult where
  | stored
  | failed (error : WriteError)
  | writeErrors (errors : List (Option WriteError))
  deriving DecidableEq, Repr

def isUnknownTopic : WriteResult → Bool
  | .stored => false
  | .failed error => decide (error = .unknownTopicOrPartition)
  | .writeErrors errors =>
      errors.all fun error =>
        decide (error = none ∨ error = some .unknownTopicOrPartition)

/-- `toKafka` -/
def toKafka (msg : Message Value) : Content Value where
  key := msg.key
  value := msg.value
  headers := msg.headers

structure Write (Value : Type) where
  messages : List (Content Value)
  result : WriteResult

/-- The write had a message at this place. -/
def Write.includes (write : Write Value) (place : Nat) : Prop :=
  place < write.messages.length

/-- The message at this place was stored. -/
def Write.stores (write : Write Value) (place : Nat) : Prop :=
  write.includes place ∧
    match write.result with
    | .stored => True
    | .failed _ => False
    | .writeErrors errors => errors[place]? = some none

/-- The writes of the loop from number `attempt` on, with `left` to go, and
the error it returns.  `results` is what each write returns, and `expired`
says that the context ends the backoff after it. -/
def retryUnknownTopic
    (attempts : Nat) (results : Nat → WriteResult) (expired : Nat → Bool) :
    Nat → Nat → WriteResult → List WriteResult × WriteResult
  | 0, _, err => ([], err)
  | left + 1, attempt, _ =>
      let err := results attempt
      if err = .stored ∨ isUnknownTopic err = false then
        ([err], err)
      else if attempt = attempts then
        ([err], err)
      else if expired attempt then
        ([err], err)
      else
        let later :=
          retryUnknownTopic attempts results expired left (attempt + 1) err
        (err :: later.1, later.2)

def unknownTopicAttempts : Nat := 8

structure PublishError where
  count : Nat
  topic : String
  cause : WriteResult
  deriving DecidableEq, Repr

/-- What a call of `Publish` has written, and what it returns. -/
structure Published (Value : Type) where
  writes : List (Write Value)
  error : Option PublishError

/-- In the source `attempts` is `unknownTopicAttempts`. -/
def publish (topic : String) (attempts : Nat) (results : Nat → WriteResult)
    (expired : Nat → Bool) (msgs : List (Message Value)) : Published Value :=
  let out := msgs.map toKafka
  let tried := retryUnknownTopic attempts results expired attempts 1 .stored
  { writes := tried.1.map fun result => ⟨out, result⟩
    error :=
      if tried.2 = .stored then none
      else some ⟨msgs.length, topic, tried.2⟩ }

/-- Of so many messages some were stored, and all the others failed with an
unknown topic. -/
def WriteResult.mixed (count : Nat) : WriteResult → Bool
  | .writeErrors errors =>
      decide (none ∈ errors.take count) &&
        isUnknownTopic (.writeErrors errors)
  | _ => false

/-- A write that is tried again stored nothing exactly if its vector is not
mixed. -/
theorem stores_nothing_iff
    {write : Write Value} (unknown : isUnknownTopic write.result = true) :
    (∀ place, ¬ write.stores place) ↔
      write.result.mixed write.messages.length = false := by
  obtain ⟨messages, result⟩ := write
  cases result with
  | stored => cases unknown
  | failed error => exact ⟨fun _ => rfl, fun _ _ isStored => isStored.2⟩
  | writeErrors errors =>
      rw [WriteResult.mixed, unknown, Bool.and_true, decide_eq_false_iff_not,
        List.mem_iff_getElem?, not_exists]
      refine forall_congr' fun place => not_congr ?_
      rw [List.getElem?_take]
      split
      · rename_i isShort
        exact and_iff_right isShort
      · rename_i isLong
        exact ⟨fun isStored => absurd isStored.1 isLong, nofun⟩

theorem pairwise_left_iff
    {Item : Type} {property : Item → Prop} {items : List Item} :
    items.Pairwise (fun earlier _ => property earlier) ↔
      ∀ item ∈ items.dropLast, property item := by
  induction items with
  | nil => simp
  | cons item rest ih =>
      rw [List.pairwise_cons, ih]
      cases rest with
      | nil => simp
      | cons second others =>
          rw [List.dropLast_cons_cons, List.forall_mem_cons,
            List.forall_mem_cons]
          exact and_congr_left fun _ =>
            ⟨fun both => both.1, fun holds => ⟨holds, fun _ _ => holds⟩⟩

section Retry

variable {attempts left attempt : Nat} {results : Nat → WriteResult}
  {expired : Nat → Bool} {err : WriteResult}

theorem length_retryUnknownTopic :
    (retryUnknownTopic attempts results expired left attempt err).1.length ≤
      left := by
  induction left generalizing attempt err with
  | zero => exact Nat.le_refl 0
  | succ left ih =>
      rw [retryUnknownTopic]
      dsimp only
      split_ifs
      · exact Nat.succ_le_succ (Nat.zero_le left)
      · exact Nat.succ_le_succ (Nat.zero_le left)
      · exact Nat.succ_le_succ (Nat.zero_le left)
      · exact Nat.succ_le_succ ih

theorem pairwise_retryUnknownTopic :
    (retryUnknownTopic attempts results expired left attempt err).1.Pairwise
      fun earlier _ => isUnknownTopic earlier = true := by
  induction left generalizing attempt err with
  | zero => exact List.Pairwise.nil
  | succ left ih =>
      rw [retryUnknownTopic]
      dsimp only
      split_ifs with ended last cancelled
      · exact List.pairwise_singleton _ _
      · exact List.pairwise_singleton _ _
      · exact List.pairwise_singleton _ _
      · have unknown : isUnknownTopic (results attempt) = true :=
          Bool.not_eq_false _ ▸ fun isKnown => ended (Or.inr isKnown)
        exact List.Pairwise.cons (fun _ _ => unknown) ih

end Retry

/-- A call makes at most so many writes, and it never writes again what is
stored exactly if no write that is followed by another stores a part of the
messages while the topic is unknown for the others. -/
theorem stored_messages_are_not_written_again
    {topic : String} {attempts : Nat} {results : Nat → WriteResult}
    {expired : Nat → Bool} {msgs : List (Message Value)} :
    (publish topic attempts results expired msgs).writes.length ≤ attempts ∧
      ((publish topic attempts results expired msgs).writes.Pairwise
          (fun earlier later =>
            ∀ place, earlier.stores place → ¬ later.includes place) ↔
        ∀ write ∈
            (publish topic attempts results expired msgs).writes.dropLast,
          write.result.mixed msgs.length = false) := by
  constructor
  · rw [publish, List.length_map]
    exact length_retryUnknownTopic
  · have alike (earlier later : WriteResult) :
        (∀ place,
            (⟨msgs.map toKafka, earlier⟩ : Write Value).stores place →
              ¬ (⟨msgs.map toKafka, later⟩ : Write Value).includes place) ↔
          ∀ place, ¬ (⟨msgs.map toKafka, earlier⟩ : Write Value).stores place :=
      forall_congr' fun place =>
        ⟨fun once isStored => once isStored isStored.1,
          fun nothing isStored => absurd isStored nothing⟩
    simp only [publish, List.pairwise_map, alike]
    rw [pairwise_left_iff, ← List.map_dropLast, List.forall_mem_map]
    refine forall₂_congr fun result member => ?_
    have unknown : isUnknownTopic result = true :=
      pairwise_left_iff.mp pairwise_retryUnknownTopic result member
    rw [stores_nothing_iff unknown, List.length_map]

private def twoMessages : List (Message Nat) :=
  [⟨"", 0, 0, "seat-1", 1, []⟩, ⟨"", 0, 0, "seat-2", 2, []⟩]

private def freshTopic (attempt : Nat) : WriteResult :=
  if attempt = 1 then
    .writeErrors
      [some .unknownTopicOrPartition, some .unknownTopicOrPartition]
  else
    .stored

theorem retry_on_a_fresh_topic_repeats_nothing :
    (publish "seat-events" unknownTopicAttempts freshTopic (fun _ => false)
        twoMessages).writes.length = 2 ∧
      (publish "seat-events" unknownTopicAttempts freshTopic
          (fun _ => false) twoMessages).writes.Pairwise
        (fun earlier later =>
          ∀ place, earlier.stores place → ¬ later.includes place) :=
  ⟨rfl, stored_messages_are_not_written_again.2.mpr (by decide)⟩

-- One partition has stored its message when the other one is still unknown.
private def halfKnownTopic (attempt : Nat) : WriteResult :=
  if attempt = 1 then .writeErrors [none, some .unknownTopicOrPartition]
  else .stored

theorem mixed_vector_is_written_again :
    ∃ earlier later,
      (publish "seat-events" unknownTopicAttempts halfKnownTopic
          (fun _ => false) twoMessages).writes = [earlier, later] ∧
        earlier.stores 0 ∧ later.includes 0 := by
  refine ⟨_, _, rfl, ⟨?_, rfl⟩, ?_⟩
  · exact Nat.zero_lt_succ 1
  · exact Nat.zero_lt_succ 1

end TicketWave.Kafka
