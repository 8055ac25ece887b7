import TicketWave.Kafka.Message
import TicketWave.Library.Registry
import TicketWave.Library.Runs

/-!
# The Kafka consumer

Any number of lifetimes of `Consumer` of `pkg/kafka` on one group.  The reader
may lose a partition and get it back, a commit that fails may have been stored
for any of the partitions, and timers may fire at any time.  `log` only records
the calls that returned nil.
-/

namespace TicketWave.Kafka

open Library

variable {Value : Type}

structure ConsumerConfig where
  concurrency : Int
  batchSize : Int
  maxAttempts : Int
  deriving DecidableEq, Repr

structure Settings where
  concurrency : Nat
  batchSize : Nat
  maxAttempts : Nat
  concurrency_pos : 0 < concurrency
  batchSize_pos : 0 < batchSize
  maxAttempts_pos : 0 < maxAttempts

/-- The value, or the default when the value is not positive. -/
def orDefault (value : Int) (default : Nat) : Nat :=
  if value ≤ 0 then default else value.toNat

theorem orDefault_pos (value : Int) {default : Nat} (positive : 0 < default) :
    0 < orDefault value default := by
  unfold orDefault
  split
  · exact positive
  · omega

def ConsumerConfig.applyDefaults (config : ConsumerConfig) : Settings where
  concurrency := orDefault config.concurrency 1
  batchSize := orDefault config.batchSize 100
  maxAttempts := orDefault config.maxAttempts 3
  concurrency_pos := orDefault_pos _ (by decide)
  batchSize_pos := orDefault_pos _ (by decide)
  maxAttempts_pos := orDefault_pos _ (by decide)

/-- What a handler returns. -/
inductive Verdict where
  | handled
  | failed (permanent : Bool) (text : String)
  deriving DecidableEq, Repr

/-- `Permanent` -/
def Verdict.permanent (text : String) : Verdict :=
  .failed true ("permanent failure: " ++ text)

/-- How far `handleOne` is with a record. -/
inductive Handling where
  /-- not started by the group yet -/
  | waiting
  /-- the handler runs for the given time -/
  | attempting (attempts : Nat)
  /-- sleeping before the next attempt -/
  | backingOff (attempts : Nat)
  /-- `DLQ.Publish` runs -/
  | parking (attempts : Nat) (cause : String)
  /-- `handleOne` has returned, with nil or with an error -/
  | returned (ok : Bool)
  deriving DecidableEq, Repr

/-- The handler has returned: what `handleOne` does next. -/
def Settings.afterVerdict
    (settings : Settings) (ctxDone : Bool) (attempts : Nat) :
    Verdict → Handling
  | .handled => .returned true
  | .failed permanent text =>
      if ctxDone then
        .returned false
      else if permanent then
        .parking attempts text
      else if attempts < settings.maxAttempts then
        .backingOff attempts
      else
        .parking attempts text

def Handling.running : Handling → Bool
  | .attempting _ => true
  | .backingOff _ => true
  | .parking _ _ => true
  | .waiting => false
  | .returned _ => false

structure Item (Value : Type) where
  record : Record (Content Value)
  handling : Handling

inductive Stage (Value : Type) where
  /-- waits for the first message of a batch -/
  | fetching
  | filling (batch : List (Record (Content Value)))
  | processing (items : List (Item Value))
  | committing (batch : List (Record (Content Value)))

structure Lifetime (Value : Type) where
  settings : Settings
  positions : Positions
  cancelled : Bool
  stage : Stage Value

/-- A handler call or a dead-letter call that returned nil. -/
structure Dealing (Value : Type) where
  record : Record (Content Value)
  /-- what was published to the dead-letter topic, if it was parked -/
  parked : Option (Message Value)

inductive Action where
  /-- the context of `Run` is cancelled -/
  | cancel
  /-- the reader gets the partition anew -/
  | rebalance (partition : Nat)
  | fetch (partition : Nat)
  /-- `FetchMessage` fails, other than by the end of the batch's window -/
  | fetchFailed
  /-- `Run` finds its context done -/
  | exit
  /-- the batch is full or its window is over -/
  | ship
  /-- the group starts the next record -/
  | spawn
  | verdict (index : Nat) (verdict : Verdict)
  /-- the backoff is over -/
  | wake (index : Nat)
  /-- the backoff is cut short by the context -/
  | abandon (index : Nat)
  | parked (index : Nat) (ok : Bool)
  /-- `g.Wait` returns -/
  | join
  /-- `CommitMessages` returns; on an error, for which partitions it was
  stored -/
  | commit (ok : Bool) (stored : Nat → Bool)
  | crash

structure Outcome (Value : Type) where
  /-- none when the lifetime has ended -/
  life : Option (Lifetime Value)
  committed : Positions
  dealings : List (Dealing Value)

/-- `gctx` is done: the context of `Run` is, or some record has failed. -/
def Lifetime.groupDone (life : Lifetime Value) (items : List (Item Value)) :
    Bool :=
  life.cancelled ||
    items.any fun item => decide (item.handling = .returned false)

def Lifetime.goto (life : Lifetime Value) (stage : Stage Value) :
    Lifetime Value :=
  { life with stage := stage }

/-- The record of the item is now handled so far. -/
def Item.setAt (items : List (Item Value)) (index : Nat) (item : Item Value)
    (handling : Handling) : List (Item Value) :=
  items.set index { item with handling := handling }

def Item.isWaiting (item : Item Value) : Bool :=
  decide (item.handling = .waiting)

def Item.isRunning (item : Item Value) : Bool :=
  item.handling.running

def Item.succeeded (item : Item Value) : Bool :=
  decide (item.handling = .returned true)

def Item.hasReturned (item : Item Value) : Bool :=
  decide (item.handling = .returned true ∨ item.handling = .returned false)

/-- The lifetime goes on in the stage, with nothing else changed. -/
def Lifetime.becomes (life : Lifetime Value) (committed : Positions)
    (stage : Stage Value) : Outcome Value :=
  ⟨some (life.goto stage), committed, []⟩

def Lifetime.act (topicName : String) (topic : Topic (Content Value))
    (committed : Positions) (life : Lifetime Value) :
    Action → Option (Outcome Value)
  | .cancel => some ⟨some { life with cancelled := true }, committed, []⟩
  | .rebalance partition =>
      some
        ⟨some
          { life with
            positions := life.positions.resume committed partition },
          committed, []⟩
  | .fetch partition =>
      match topic.next life.positions partition with
      | none => none
      | some record =>
          let read := { life with positions := life.positions.after record }
          match life.stage with
          | .fetching => some (read.becomes committed (.filling [record]))
          | .filling batch =>
              if batch.length < life.settings.batchSize then
                some (read.becomes committed (.filling (batch ++ [record])))
              else
                none
          | _ => none
  | .fetchFailed =>
      match life.stage with
      | .fetching => some ⟨none, committed, []⟩
      | .filling _ => some ⟨none, committed, []⟩
      | _ => none
  | .exit =>
      match life.stage, life.cancelled with
      | .fetching, true => some ⟨none, committed, []⟩
      | _, _ => none
  | .ship =>
      match life.stage with
      | .filling batch =>
          some
            (life.becomes committed
              (.processing (batch.map fun record => ⟨record, .waiting⟩)))
      | _ => none
  | .spawn =>
      match life.stage with
      | .processing items =>
          -- `g.Go` blocks while the limit is reached
          if items.countP Item.isRunning < life.settings.concurrency then
            match items.findIdx? Item.isWaiting with
            | none => none
            | some index =>
                match items[index]? with
                | none => none
                | some item =>
                    some
                      (life.becomes committed
                        (.processing
                          (Item.setAt items index item (.attempting 1))))
          else
            none
      | _ => none
  | .verdict index verdict =>
      match life.stage with
      | .processing items =>
          match items[index]? with
          | some ⟨record, .attempting attempts⟩ =>
              let after :=
                life.settings.afterVerdict (life.groupDone items) attempts
                  verdict
              some
                ⟨some
                  (life.goto
                    (.processing
                      (Item.setAt items index ⟨record, .attempting attempts⟩
                        after))),
                  committed,
                  if verdict = .handled then [⟨record, none⟩] else []⟩
          | _ => none
      | _ => none
  | .wake index =>
      match life.stage with
      | .processing items =>
          match items[index]? with
          | some ⟨record, .backingOff attempts⟩ =>
              some
                (life.becomes committed
                  (.processing
                    (Item.setAt items index ⟨record, .backingOff attempts⟩
                      (.attempting (attempts + 1)))))
          | _ => none
      | _ => none
  | .abandon index =>
      match life.stage with
      | .processing items =>
          match items[index]? with
          | some ⟨record, .backingOff attempts⟩ =>
              if life.groupDone items then
                some
                  (life.becomes committed
                    (.processing
                      (Item.setAt items index ⟨record, .backingOff attempts⟩
                        (.returned false))))
              else
                none
          | _ => none
      | _ => none
  | .parked index ok =>
      match life.stage with
      | .processing items =>
          match items[index]? with
          | some ⟨record, .parking attempts cause⟩ =>
              some
                ⟨some
                  (life.goto
                    (.processing
                      (Item.setAt items index
                        ⟨record, .parking attempts cause⟩ (.returned ok)))),
                  committed,
                  if ok then
                    [⟨record,
                      some
                        (deadMessage (fromKafka topicName record) attempts
                          cause)⟩]
                  else []⟩
          | _ => none
      | _ => none
  | .join =>
      match life.stage with
      | .processing items =>
          if items.all Item.hasReturned then
            if items.all Item.succeeded then
              some
                (life.becomes committed (.committing (items.map Item.record)))
            else
              some ⟨none, committed, []⟩
          else
            none
      | _ => none
  | .commit ok stored =>
      match life.stage with
      | .committing batch =>
          if ok then
            some (life.becomes (committed.commit batch fun _ => true) .fetching)
          else
            some ⟨none, committed.commit batch stored, []⟩
      | _ => none
  | .crash => some ⟨none, committed, []⟩

inductive Acted
    (topic : Topic (Content Value)) (committed : Positions)
    (life : Lifetime Value) : Outcome Value → Prop
  | cancelled :
      Acted topic committed life
        ⟨some { life with cancelled := true }, committed, []⟩
  | rebalanced (partition : Nat) :
      Acted topic committed life
        ⟨some
          { life with
            positions := life.positions.resume committed partition },
          committed, []⟩
  | fetched
      {partition : Nat} {record : Record (Content Value)}
      {batch : List (Record (Content Value))}
      (found : topic.next life.positions partition = some record)
      (stage : life.stage = .fetching ∧ batch = [] ∨
        life.stage = .filling batch) :
      Acted topic committed life
        (Lifetime.becomes
          { life with positions := life.positions.after record }
          committed (.filling (batch ++ [record])))
  | ended : Acted topic committed life ⟨none, committed, []⟩
  | shipped
      {batch : List (Record (Content Value))}
      (stage : life.stage = .filling batch) :
      Acted topic committed life
        (life.becomes committed
          (.processing (batch.map fun record => ⟨record, .waiting⟩)))
  | moved
      {items : List (Item Value)} {index : Nat} {item : Item Value}
      {handling : Handling} (stage : life.stage = .processing items)
      (found : items[index]? = some item)
      (unsettled : handling ≠ .returned true) :
      Acted topic committed life
        (life.becomes committed
          (.processing (Item.setAt items index item handling)))
  | dealt
      {items : List (Item Value)} {index : Nat} {item : Item Value}
      {parked : Option (Message Value)}
      (stage : life.stage = .processing items)
      (found : items[index]? = some item) :
      Acted topic committed life
        ⟨some
          (life.goto
            (.processing (Item.setAt items index item (.returned true)))),
          committed, [⟨item.record, parked⟩]⟩
  | joined
      {items : List (Item Value)} (stage : life.stage = .processing items)
      (succeeded : ∀ item ∈ items, item.succeeded = true) :
      Acted topic committed life
        (life.becomes committed (.committing (items.map Item.record)))
  | committed
      {batch : List (Record (Content Value))}
      (stage : life.stage = .committing batch) :
      Acted topic committed life
        (life.becomes (committed.commit batch fun _ => true) .fetching)
  | commitFailed
      {batch : List (Record (Content Value))} (stored : Nat → Bool)
      (stage : life.stage = .committing batch) :
      Acted topic committed life
        ⟨none, committed.commit batch stored, []⟩

/-- An error of the handler never lets `handleOne` return nil. -/
theorem Settings.afterVerdict_failed (settings : Settings) (ctxDone : Bool)
    (attempts : Nat) (permanent : Bool) (text : String) :
    settings.afterVerdict ctxDone attempts (.failed permanent text) ≠
      .returned true := by
  simp only [Settings.afterVerdict]
  split
  · decide
  · split
    · exact fun equal => nomatch equal
    · split <;> exact fun equal => nomatch equal

theorem acted_of_act {topicName : String} {topic : Topic (Content Value)}
    {committed : Positions} {life : Lifetime Value} {action : Action}
    {outcome : Outcome Value}
    (acts : life.act topicName topic committed action = some outcome) :
    Acted topic committed life outcome := by
  cases action with
  | cancel =>
      cases acts
      exact .cancelled
  | rebalance partition =>
      cases acts
      exact .rebalanced partition
  | fetch partition =>
      simp only [Lifetime.act] at acts
      split at acts
      · cases acts
      · rename_i record found
        split at acts
        · rename_i stage
          cases acts
          have empty :
              life.stage = .fetching ∧
                  ([] : List (Record (Content Value))) = [] ∨
                life.stage = .filling [] :=
            Or.inl ⟨stage, rfl⟩
          exact .fetched found empty
        · rename_i batch stage
          split at acts
          · cases acts
            exact .fetched found (Or.inr stage)
          · cases acts
        · cases acts
  | fetchFailed =>
      simp only [Lifetime.act] at acts
      split at acts <;> cases acts <;> exact .ended
  | exit =>
      simp only [Lifetime.act] at acts
      split at acts <;> cases acts
      exact .ended
  | ship =>
      simp only [Lifetime.act] at acts
      split at acts
      · rename_i batch stage
        cases acts
        exact .shipped stage
      · cases acts
  | spawn =>
      simp only [Lifetime.act] at acts
      split at acts
      · rename_i items stage
        split at acts
        · split at acts
          · cases acts
          · split at acts
            · cases acts
            · rename_i item found
              cases acts
              exact .moved stage found (fun equal => nomatch equal)
        · cases acts
      · cases acts
  | verdict index verdict =>
      simp only [Lifetime.act] at acts
      split at acts
      · rename_i items stage
        split at acts
        · rename_i record attempts found
          cases acts
          cases verdict with
          | handled => exact .dealt stage found
          | failed permanent text =>
              exact .moved stage found
                (life.settings.afterVerdict_failed _ _ permanent text)
        · cases acts
      · cases acts
  | wake index =>
      simp only [Lifetime.act] at acts
      split at acts
      · rename_i items stage
        split at acts
        · rename_i record attempts found
          cases acts
          exact .moved stage found (fun equal => nomatch equal)
        · cases acts
      · cases acts
  | abandon index =>
      simp only [Lifetime.act] at acts
      split at acts
      · rename_i items stage
        split at acts
        · rename_i record attempts found
          split at acts
          · cases acts
            exact .moved stage found (by decide)
          · cases acts
        · cases acts
      · cases acts
  | parked index ok =>
      simp only [Lifetime.act] at acts
      split at acts
      · rename_i items stage
        split at acts
        · rename_i record attempts cause found
          cases acts
          cases ok with
          | true => exact .dealt stage found
          | false => exact .moved stage found (by decide)
        · cases acts
      · cases acts
  | join =>
      simp only [Lifetime.act] at acts
      split at acts
      · rename_i items stage
        split at acts
        · split at acts
          · rename_i succeeded
            cases acts
            exact .joined stage (List.all_eq_true.mp succeeded)
          · cases acts
            exact .ended
        · cases acts
      · cases acts
  | commit ok stored =>
      simp only [Lifetime.act] at acts
      split at acts
      · rename_i batch stage
        split at acts
        · cases acts
          exact .committed stage
        · cases acts
          exact .commitFailed stored stage
      · cases acts
  | crash =>
      cases acts
      exact .ended

/-- What was published is the dead message of the record. -/
def Dealing.Parked (topicName : String) (dealing : Dealing Value) : Prop :=
  ∃ attempts cause,
    dealing.parked =
      some (deadMessage (fromKafka topicName dealing.record) attempts cause)

/-- A dealing stands for a handler call that returned nil, made for a record
that was being attempted, or for the dead message of its record. -/
theorem dealings_of_act {topicName : String} {topic : Topic (Content Value)}
    {committed : Positions} {life : Lifetime Value} {action : Action}
    {outcome : Outcome Value}
    (acts : life.act topicName topic committed action = some outcome)
    {dealing : Dealing Value} (member : dealing ∈ outcome.dealings) :
    (∃ index items attempts,
        action = .verdict index .handled ∧ life.stage = .processing items ∧
          items[index]? = some ⟨dealing.record, .attempting attempts⟩) ∨
      dealing.Parked topicName := by
  cases action with
  | verdict index verdict =>
      simp only [Lifetime.act] at acts
      split at acts
      · rename_i items stage
        split at acts
        · rename_i record attempts found
          cases acts
          cases verdict with
          | handled =>
              rw [List.mem_singleton.mp member]
              exact Or.inl ⟨index, items, attempts, rfl, stage, found⟩
          | failed permanent text => cases member
        · cases acts
      · cases acts
  | parked index ok =>
      simp only [Lifetime.act] at acts
      split at acts
      · rename_i items stage
        split at acts
        · rename_i record attempts cause found
          cases acts
          cases ok with
          | true =>
              rw [List.mem_singleton.mp member]
              exact Or.inr ⟨attempts, cause, rfl⟩
          | false => cases member
        · cases acts
      · cases acts
  | cancel | crash | rebalance =>
      cases acts
      cases member
  | fetch | fetchFailed | exit | ship | spawn | wake | abandon | join
      | commit =>
      -- everything else leaves the log alone
      simp only [Lifetime.act] at acts
      repeat' split at acts
      all_goals cases acts
      all_goals cases member

structure Group (Value : Type) where
  topicName : String
  topic : Topic (Content Value)
  committed : Positions
  consumers : Registry (Lifetime Value)
  log : List (Dealing Value)

/-- A new group has no committed offset and reads from the beginning. -/
def Group.new (Value : Type) (topicName : String) : Group Value where
  topicName := topicName
  topic := Topic.empty
  committed := Positions.start
  consumers := Registry.empty
  log := []

inductive Label (Value : Type) where
  /-- a producer appends to the topic -/
  | produce (record : Record (Content Value))
  /-- a consumer starts -/
  | start (config : ConsumerConfig)
  | act (consumer : Nat) (action : Action)

def Lifetime.new (config : ConsumerConfig) (committed : Positions) :
    Lifetime Value where
  settings := config.applyDefaults
  positions := committed
  cancelled := false
  stage := .fetching

/-- The lifetime registered under the number is now this one. -/
def Group.settle (group : Group Value) (id : Nat) (outcome : Outcome Value) :
    Group Value :=
  { group with
    committed := outcome.committed
    consumers :=
      match outcome.life with
      | some life => group.consumers.put id life
      | none => group.consumers.finish id
    log := outcome.dealings ++ group.log }

def step (group : Group Value) : Label Value → Option (Group Value)
  | .produce record =>
      if follows : record.Follows group.topic.records then
        some { group with topic := group.topic.append record follows }
      else
        none
  | .start config =>
      some
        { group with
          consumers :=
            group.consumers.launch (Lifetime.new config group.committed) }
  | .act id action =>
      match group.consumers.get id with
      | none => none
      | some life =>
          (life.act group.topicName group.topic group.committed action).map
            (group.settle id)

inductive Transition (group : Group Value) :
    Label Value → Group Value → Prop
  | produced
      {record : Record (Content Value)}
      (follows : record.Follows group.topic.records) :
      Transition group (.produce record)
        { group with topic := group.topic.append record follows }
  | started (config : ConsumerConfig) :
      Transition group (.start config)
        { group with
          consumers :=
            group.consumers.launch (Lifetime.new config group.committed) }
  | acted
      {id : Nat} {action : Action} {life : Lifetime Value}
      {outcome : Outcome Value}
      (running : group.consumers.get id = some life)
      (acted : Acted group.topic group.committed life outcome) :
      Transition group (.act id action) (group.settle id outcome)

variable {group next : Group Value} {label : Label Value}

theorem transition_of_step (stepped : step group label = some next) :
    Transition group label next := by
  cases label with
  | produce record =>
      simp only [step] at stepped
      split at stepped
      · rename_i follows
        cases stepped
        exact .produced follows
      · cases stepped
  | start config =>
      cases stepped
      exact .started config
  | act id action =>
      simp only [step] at stepped
      split at stepped
      · cases stepped
      · rename_i life running
        obtain ⟨outcome, acts, rfl⟩ := Option.map_eq_some_iff.mp stepped
        exact .acted running (acted_of_act acts)

theorem topicName_of_step (stepped : step group label = some next) :
    next.topicName = group.topicName := by
  cases transition_of_step stepped with
  | produced follows => rfl
  | started config => rfl
  | acted running acted => rfl

/-- The record that the consumer is attempting at the index of its batch. -/
def Group.attempting (group : Group Value) (consumer index : Nat) :
    Option (Record (Content Value)) :=
  match group.consumers.get consumer with
  | none => none
  | some life =>
      match life.stage with
      | .processing items =>
          match items[index]? with
          | some ⟨record, .attempting _⟩ => some record
          | _ => none
      | _ => none

/-- What a step adds to the log was parked, or the handler returned nil for
it. -/
theorem log_of_step (stepped : step group label = some next)
    {dealing : Dealing Value} (member : dealing ∈ next.log) :
    dealing ∈ group.log ∨ dealing.Parked group.topicName ∨
      ∃ consumer index,
        label = .act consumer (.verdict index .handled) ∧
          group.attempting consumer index = some dealing.record := by
  cases label with
  | produce record =>
      cases transition_of_step stepped with
      | produced follows => exact Or.inl member
  | start config =>
      cases stepped
      exact Or.inl member
  | act consumer action =>
      simp only [step] at stepped
      split at stepped
      · cases stepped
      · rename_i life running
        obtain ⟨outcome, acts, rfl⟩ := Option.map_eq_some_iff.mp stepped
        rcases List.mem_append.mp member with new | old
        · rcases dealings_of_act acts new with
            ⟨index, items, attempts, rfl, stage, found⟩ | parked
          · refine Or.inr (Or.inr ⟨consumer, index, rfl, ?_⟩)
            simp only [Group.attempting, running, stage, found]
          · exact Or.inr (Or.inl parked)
        · exact Or.inl old

end TicketWave.Kafka
