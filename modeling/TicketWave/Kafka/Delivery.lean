import TicketWave.Kafka.Consumer

/-!
# The consumer skips nothing

What lies below the position of a reader, and what comes before a record of
its batch, has been dealt with or is in the batch.
-/

namespace TicketWave.Kafka

open Library

variable {Value : Type}

/-- The record was handled, or parked on the dead-letter topic. -/
def Dealt (log : List (Dealing Value)) (record : Record (Content Value)) :
    Prop :=
  ∃ dealing ∈ log, dealing.record = record

/-- The records a lifetime is at work on. -/
def Stage.batch : Stage Value → List (Record (Content Value))
  | .fetching => []
  | .filling batch => batch
  | .processing items => items.map Item.record
  | .committing batch => batch

/-- The records of the batch for which `handleOne` has returned nil. -/
def Stage.finished : Stage Value → List (Record (Content Value))
  | .fetching => []
  | .filling _ => []
  | .processing items => (items.filter Item.succeeded).map Item.record
  | .committing batch => batch

/-- Dealt with, or in the batch. -/
def Taken (log : List (Dealing Value)) (batch : List (Record (Content Value)))
    (record : Record (Content Value)) : Prop :=
  Dealt log record ∨ record ∈ batch

theorem Dealt.mono {old new : List (Dealing Value)}
    (grows : ∀ dealing ∈ old, dealing ∈ new) {record : Record (Content Value)}
    (dealt : Dealt old record) : Dealt new record := by
  obtain ⟨dealing, member, same⟩ := dealt
  exact ⟨dealing, grows dealing member, same⟩

theorem Taken.mono {old new : List (Dealing Value)}
    {batch larger : List (Record (Content Value))}
    (grows : ∀ dealing ∈ old, dealing ∈ new)
    (includes : ∀ record ∈ batch, record ∈ larger)
    (record : Record (Content Value)) (taken : Taken old batch record) :
    Taken new larger record := by
  rcases taken with dealt | inBatch
  · exact Or.inl (dealt.mono grows)
  · exact Or.inr (includes record inBatch)

/-- The account of a lifetime. -/
structure Careful
    (topic : Topic (Content Value)) (log : List (Dealing Value))
    (life : Lifetime Value) : Prop where
  reached : topic.Reached life.positions
  behind : topic.Settled (Taken log life.stage.batch) life.positions
  inTopic : ∀ record ∈ life.stage.batch, record ∈ topic.records
  before :
    ∀ last ∈ life.stage.batch,
      topic.SettledUpTo (Taken log life.stage.batch) last
  finished : ∀ record ∈ life.stage.finished, Dealt log record

structure Sound (group : Group Value) : Prop where
  reached : group.topic.Reached group.committed
  committed : group.topic.Settled (Dealt group.log) group.committed
  careful :
    ∀ {id life}, group.consumers.get id = some life →
      Careful group.topic group.log life

theorem sound_new (topicName : String) : Sound (Group.new Value topicName) where
  reached := Topic.reached_start
  committed := Topic.settled_start
  careful := nofun

section Keep

variable {topic : Topic (Content Value)} {log : List (Dealing Value)}
  {life : Lifetime Value} {committed : Positions}
  {record : Record (Content Value)}

theorem Careful.append (careful : Careful topic log life)
    (follows : record.Follows topic.records) :
    Careful (topic.append record follows) log life where
  reached := careful.reached.append follows
  behind := careful.behind.append careful.reached follows
  inTopic := fun old member =>
    List.mem_append_left _ (careful.inTopic old member)
  before := fun last member =>
    (careful.before last member).append (careful.inTopic last member) follows
  finished := careful.finished

theorem Careful.go {new : List (Dealing Value)} {stage : Stage Value}
    (careful : Careful topic log life) (grows : ∀ dealing ∈ log, dealing ∈ new)
    (sameBatch : stage.batch = life.stage.batch)
    (finished : ∀ record ∈ stage.finished, Dealt new record) :
    Careful topic new (life.goto stage) := by
  have weaker : ∀ record, Taken log life.stage.batch record →
      Taken new stage.batch record := by
    rw [sameBatch]
    exact Taken.mono grows fun _ member => member
  refine ⟨careful.reached, careful.behind.mono weaker, ?_, ?_, finished⟩
  · intro record member
    exact careful.inTopic record (sameBatch ▸ member)
  · intro last member
    exact (careful.before last (sameBatch ▸ member)).mono weaker

theorem Careful.grow {new : List (Dealing Value)}
    (careful : Careful topic log life)
    (grows : ∀ dealing ∈ log, dealing ∈ new) : Careful topic new life :=
  careful.go grows rfl fun record member =>
    (careful.finished record member).mono grows

/-- The reader goes back to the committed offset of a partition. -/
theorem careful_of_rebalance (reached : topic.Reached committed)
    (settled : topic.Settled (Dealt log) committed)
    (careful : Careful topic log life) (partition : Nat) :
    Careful topic log
      { life with
        positions := life.positions.resume committed partition } := by
  have reread : topic.Settled (Taken log life.stage.batch) committed :=
    settled.mono fun _ dealt => Or.inl dealt
  exact ⟨careful.reached.resume reached partition,
    careful.behind.resume reread partition, careful.inTopic,
    careful.before, careful.finished⟩

theorem careful_of_fetch {partition : Nat}
    {batch : List (Record (Content Value))} (careful : Careful topic log life)
    (found : topic.next life.positions partition = some record)
    (sameBatch : life.stage.batch = batch) :
    Careful topic log
      { life with
        positions := life.positions.after record
        stage := .filling (batch ++ [record]) } := by
  subst sameBatch
  have member := (Topic.next_spec found).1
  have weaker :
      ∀ other, Taken log life.stage.batch other →
        Taken log (life.stage.batch ++ [record]) other :=
    Taken.mono (fun _ member => member) fun _ member =>
      List.mem_append_left _ member
  have upToRecord :
      topic.SettledUpTo (Taken log (life.stage.batch ++ [record]))
        record := by
    refine Topic.SettledUpTo.mono ?_ (careful.behind.next found)
    rintro other (taken | rfl)
    · exact weaker other taken
    · exact Or.inr (List.mem_append_right _ (List.mem_singleton_self other))
  refine ⟨careful.reached.after member,
    (careful.behind.mono weaker).after upToRecord, ?_, ?_, ?_⟩
  · intro other inBatch
    rcases List.mem_append.mp inBatch with old | new
    · exact careful.inTopic other old
    · rw [List.mem_singleton.mp new]
      exact member
  · intro last inBatch
    rcases List.mem_append.mp inBatch with old | new
    · exact (careful.before last old).mono weaker
    · rw [List.mem_singleton.mp new]
      exact upToRecord
  · exact nofun

theorem Item.map_record_setAt
    {items : List (Item Value)} {index : Nat} {item : Item Value}
    (found : items[index]? = some item) (handling : Handling) :
    (Item.setAt items index item handling).map Item.record =
      items.map Item.record := by
  have recorded : (items.map Item.record)[index]? = some item.record := by
    rw [List.getElem?_map, found, Option.map_some]
  obtain ⟨bound, same⟩ := List.getElem?_eq_some_iff.mp recorded
  unfold Item.setAt
  rw [List.map_set, ← same]
  exact List.set_getElem_self bound

theorem Item.finished_setAt {items : List (Item Value)} {index : Nat}
    {item : Item Value} {handling : Handling}
    (finished :
      record ∈
        (Stage.processing (Item.setAt items index item handling)).finished) :
    record ∈ (Stage.processing items).finished ∨
      handling = .returned true ∧ record = item.record := by
  obtain ⟨changed, member, rfl⟩ := List.mem_map.mp finished
  obtain ⟨inItems, succeeded⟩ := List.mem_filter.mp member
  rcases List.mem_or_eq_of_mem_set inItems with old | equal
  · exact Or.inl (List.mem_map_of_mem (List.mem_filter.mpr ⟨old, succeeded⟩))
  · subst equal
    exact Or.inr ⟨of_decide_eq_true succeeded, rfl⟩

/-- A batch that has been dealt with is committed, and the lifetime starts the
next one. -/
theorem careful_of_commit (careful : Careful topic log life)
    (dealt : ∀ record ∈ life.stage.batch, Dealt log record) :
    Careful topic log (life.goto .fetching) := by
  have weaker :
      ∀ record, Taken log life.stage.batch record → Taken log [] record := by
    rintro record (isDealt | inBatch)
    · exact Or.inl isDealt
    · exact Or.inl (dealt record inBatch)
  refine ⟨careful.reached, careful.behind.mono weaker, ?_, ?_, ?_⟩
  · exact nofun
  · exact nofun
  · exact nofun

theorem Careful.dealt_of_committing {batch : List (Record (Content Value))}
    (careful : Careful topic log life)
    (stage : life.stage = .committing batch) :
    ∀ record ∈ life.stage.batch, Dealt log record := by
  intro record member
  apply careful.finished record
  rw [stage] at member ⊢
  exact member

/-- The positions that a commit stores are those of records that have been
dealt with, and so are all before them. -/
theorem Careful.commit {batch : List (Record (Content Value))}
    (careful : Careful topic log life) (reached : topic.Reached committed)
    (settled : topic.Settled (Dealt log) committed)
    (stage : life.stage = .committing batch) (stored : Nat → Bool) :
    topic.Reached (committed.commit batch stored) ∧
      topic.Settled (Dealt log) (committed.commit batch stored) := by
  have sameBatch : life.stage.batch = batch := by
    rw [stage]
    rfl
  constructor
  · apply reached.commit
    intro record member
    exact careful.inTopic record (sameBatch.symm ▸ member)
  · apply settled.commit
    intro last member
    have upTo := careful.before last (sameBatch.symm ▸ member)
    refine Topic.SettledUpTo.mono ?_ upTo
    rintro record (dealt | inBatch)
    · exact dealt
    · exact careful.dealt_of_committing stage record inBatch

theorem careful_of_acted
    {outcome : Outcome Value} (reached : topic.Reached committed)
    (settled : topic.Settled (Dealt log) committed)
    (careful : Careful topic log life)
    (acted : Acted topic committed life outcome) :
    topic.Reached outcome.committed ∧
      topic.Settled (Dealt (outcome.dealings ++ log)) outcome.committed ∧
      ∀ next, outcome.life = some next →
        Careful topic (outcome.dealings ++ log) next := by
  cases acted with
  | cancelled =>
      refine ⟨reached, settled, ?_⟩
      rintro next ⟨⟩
      exact ⟨careful.reached, careful.behind, careful.inTopic,
        careful.before, careful.finished⟩
  | rebalanced partition =>
      refine ⟨reached, settled, ?_⟩
      rintro next ⟨⟩
      exact careful_of_rebalance reached settled careful partition
  | fetched found stage =>
      refine ⟨reached, settled, ?_⟩
      rintro next ⟨⟩
      apply careful_of_fetch careful found
      rcases stage with ⟨isFetching, rfl⟩ | isFilling
      · rw [isFetching]
        rfl
      · rw [isFilling]
        rfl
  | ended =>
      refine ⟨reached, settled, ?_⟩
      intro next isSome
      cases isSome
  | @shipped batch stage =>
      refine ⟨reached, settled, ?_⟩
      rintro next ⟨⟩
      apply careful.go (fun _ member => member)
      · rw [stage]
        simp [Stage.batch, Function.comp_def]
      · intro record isFinished
        simp [Stage.finished, Item.succeeded] at isFinished
  | @moved items index item handling stage found unsettled =>
      refine ⟨reached, settled, ?_⟩
      rintro next ⟨⟩
      apply careful.go (fun _ member => member)
      · rw [stage]
        exact Item.map_record_setAt found handling
      · intro record isFinished
        rcases Item.finished_setAt isFinished with before | ⟨isTrue, _⟩
        · rw [← stage] at before
          exact careful.finished record before
        · exact absurd isTrue unsettled
  | @dealt items index item parked stage found =>
      have grows :
          ∀ dealing ∈ log, dealing ∈ ⟨item.record, parked⟩ :: log :=
        fun dealing member => List.mem_cons_of_mem _ member
      refine ⟨reached, settled.mono fun _ dealt => dealt.mono grows, ?_⟩
      rintro next ⟨⟩
      apply careful.go grows
      · rw [stage]
        exact Item.map_record_setAt found (.returned true)
      · intro record isFinished
        rcases Item.finished_setAt isFinished with before | ⟨_, rfl⟩
        · rw [← stage] at before
          exact (careful.finished record before).mono grows
        · exact ⟨_, List.mem_cons_self, rfl⟩
  | @joined items stage succeeded =>
      refine ⟨reached, settled, ?_⟩
      rintro next ⟨⟩
      apply careful.go (fun _ member => member)
      · rw [stage]
        rfl
      · intro record inBatch
        apply careful.finished record
        rw [stage]
        obtain ⟨item, member, rfl⟩ := List.mem_map.mp inBatch
        exact List.mem_map_of_mem
          (List.mem_filter.mpr ⟨member, succeeded item member⟩)
  | committed stage =>
      obtain ⟨nextReached, nextSettled⟩ :=
        careful.commit reached settled stage _
      refine ⟨nextReached, nextSettled, ?_⟩
      rintro next ⟨⟩
      exact careful_of_commit careful (careful.dealt_of_committing stage)
  | commitFailed stored stage =>
      obtain ⟨nextReached, nextSettled⟩ :=
        careful.commit reached settled stage stored
      refine ⟨nextReached, nextSettled, ?_⟩
      intro next isSome
      cases isSome

end Keep

theorem sound_of_transition {group next : Group Value} {label : Label Value}
    (sound : Sound group) (transition : Transition group label next) :
    Sound next := by
  cases transition with
  | produced follows =>
      exact ⟨sound.reached.append follows,
        sound.committed.append sound.reached follows,
        fun found => (sound.careful found).append follows⟩
  | started config =>
      refine ⟨sound.reached, sound.committed, ?_⟩
      intro id life found
      rcases Registry.cases_of_get_launch found with ⟨_, rfl⟩ | stored
      · refine ⟨sound.reached, ?_, ?_, ?_, ?_⟩
        · exact sound.committed.mono fun _ dealt => Or.inl dealt
        · exact nofun
        · exact nofun
        · exact nofun
      · exact sound.careful stored
  | @acted id action life outcome running acted =>
      obtain ⟨reached, settled, careful⟩ :=
        careful_of_acted sound.reached sound.committed
          (sound.careful running) acted
      have others :
          ∀ {other : Nat} {value : Lifetime Value},
            group.consumers.get other = some value →
              Careful group.topic (outcome.dealings ++ group.log) value := by
        intro other value stored
        exact (sound.careful stored).grow fun dealing member =>
          List.mem_append_right _ member
      refine ⟨reached, settled, ?_⟩
      intro other value found
      unfold Group.settle at found
      cases ends : outcome.life with
      | none =>
          simp only [ends] at found
          exact others (Registry.get_of_get_finish found).2
      | some new =>
          simp only [ends] at found
          rcases Registry.cases_of_get_put found with
            ⟨_, rfl⟩ | ⟨_, stored⟩
          · exact careful value ends
          · exact others stored

/-- The consumer never skips a message: what lies below the committed offset
has been handled or parked. -/
theorem consumer_skips_nothing
    {topicName : String} {labels : List (Label Value)} {group : Group Value}
    (ran : run step (Group.new Value topicName) labels = some group) :
    ∀ record ∈ group.topic.records, record.Below group.committed →
      ∃ dealing ∈ group.log, dealing.record = record := by
  have sound : Sound group :=
    invariant_of_run
      (fun kept stepped =>
        sound_of_transition kept (transition_of_step stepped))
      (sound_new topicName) ran
  exact sound.committed

-- A consumer crashes in the middle of a batch.  The next one gets both records
-- again, handles the second one, parks the first one after two attempts, and
-- commits; the commit reports an error but was stored.
private def bodyAt (offset : Nat) (body : String) : Record (Content String) :=
  ⟨0, offset, ⟨"key", body, []⟩⟩

private def parkingLabels : List (Label String) :=
  [.produce (bodyAt 0 "bad"), .produce (bodyAt 3 "good"),
    .start ⟨2, 2, 2⟩, .act 0 (.fetch 0), .act 0 (.fetch 0), .act 0 .ship,
    .act 0 .spawn, .act 0 (.verdict 0 (.failed false "no")), .act 0 .crash,
    .start ⟨2, 2, 2⟩, .act 1 (.fetch 0), .act 1 (.fetch 0), .act 1 .ship,
    .act 1 .spawn, .act 1 .spawn, .act 1 (.verdict 0 (.failed false "no")),
    .act 1 (.verdict 1 .handled), .act 1 (.wake 0),
    .act 1 (.verdict 0 (.failed false "no")), .act 1 (.parked 0 true),
    .act 1 .join, .act 1 (.commit false fun _ => true)]

theorem parked_record_is_not_skipped :
    ∃ group : Group String,
      run step (Group.new String "orders") parkingLabels = some group ∧
        bodyAt 0 "bad" ∈ group.topic.records ∧
        (bodyAt 0 "bad").Below group.committed ∧
        ∃ dealing ∈ group.log, dealing.record = bodyAt 0 "bad" := by
  have ends :
      (run step (Group.new String "orders") parkingLabels).any
          (fun group =>
            decide (bodyAt 0 "bad" ∈ group.topic.records) &&
              decide ((bodyAt 0 "bad").Below group.committed)) = true := by
    decide +kernel
  obtain ⟨group, ran, checked⟩ := (Option.any_eq_true _ _).mp ends
  obtain ⟨isRecord, isBelow⟩ := Bool.and_eq_true_iff.mp checked
  have member := of_decide_eq_true isRecord
  have below := of_decide_eq_true isBelow
  exact ⟨group, ran, member, below, consumer_skips_nothing ran _ member below⟩

end TicketWave.Kafka
