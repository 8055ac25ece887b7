import Mathlib.Logic.Function.Basic
import Mathlib.Data.List.Pairwise

/-!
# Partitioned topics and positions in them

A position says from which offset on the records of a partition are still to
come; `Settled` that every record below it has been dealt with.
-/

namespace TicketWave.Library

universe u

structure Record (Payload : Type u) where
  partition : Nat
  offset : Nat
  payload : Payload
  deriving DecidableEq, Repr

variable {Payload : Type u}

/-- Within its partition the record comes after all the others. -/
def Record.Follows
    (record : Record Payload) (records : List (Record Payload)) : Prop :=
  ∀ old ∈ records, old.partition = record.partition → old.offset < record.offset

instance (record : Record Payload) (records : List (Record Payload)) :
    Decidable (record.Follows records) :=
  inferInstanceAs (Decidable (∀ old ∈ records, _))

structure Topic (Payload : Type u) where
  records : List (Record Payload)
  ordered :
    records.Pairwise fun earlier later =>
      earlier.partition = later.partition → earlier.offset < later.offset

namespace Topic

def empty : Topic Payload where
  records := []
  ordered := .nil

def append (topic : Topic Payload) (record : Record Payload)
    (follows : record.Follows topic.records) : Topic Payload where
  records := topic.records ++ [record]
  ordered := by
    apply List.pairwise_append.mpr
    refine ⟨topic.ordered, List.pairwise_singleton _ record, ?_⟩
    intro earlier stored later isNew
    rw [List.mem_singleton.mp isNew]
    exact follows earlier stored

theorem record_unique {topic : Topic Payload} {left right : Record Payload}
    (leftMember : left ∈ topic.records) (rightMember : right ∈ topic.records)
    (partition : left.partition = right.partition)
    (offset : left.offset = right.offset) : left = right := by
  by_contra different
  have symmetric :
      Std.Symm fun earlier later : Record Payload =>
        earlier.partition = later.partition → earlier.offset ≠ later.offset :=
    ⟨fun _ _ apart same equal => apart same.symm equal.symm⟩
  have apart :=
    topic.ordered.imp
      fun {earlier later} before same =>
        Nat.ne_of_lt (before same : earlier.offset < later.offset)
  exact apart.forall leftMember rightMember different partition offset

end Topic

abbrev Positions := Nat → Nat

namespace Positions

def start : Positions := fun _ => 0

/-- The position once the record has been read. -/
def after (positions : Positions) (record : Record Payload) : Positions :=
  Function.update positions record.partition (record.offset + 1)

/-- Go back to another position in one partition. -/
def resume (positions other : Positions) (partition : Nat) : Positions :=
  Function.update positions partition (other partition)

/-- One past the highest offset of the partition in the batch, or 0. -/
def highest (batch : List (Record Payload)) (partition : Nat) : Nat :=
  batch.foldr
    (fun record rest =>
      if record.partition = partition then max (record.offset + 1) rest
      else rest)
    0

/-- Move the partitions that occur in the batch and satisfy `stored` past the
batch. -/
def commit (positions : Positions) (batch : List (Record Payload))
    (stored : Nat → Bool) : Positions := fun partition =>
  if stored partition = true ∧ highest batch partition ≠ 0 then
    highest batch partition
  else
    positions partition

end Positions

/-- The record lies before the position. -/
def Record.Below (record : Record Payload) (positions : Positions) : Prop :=
  record.offset < positions record.partition

instance (record : Record Payload) (positions : Positions) :
    Decidable (record.Below positions) :=
  inferInstanceAs (Decidable (record.offset < positions record.partition))

/-- The next record of the partition. -/
def Topic.next (topic : Topic Payload) (positions : Positions)
    (partition : Nat) : Option (Record Payload) :=
  topic.records.find? fun record =>
    decide (record.partition = partition ∧ ¬ record.Below positions)

theorem Positions.exists_of_lt_highest
    {batch : List (Record Payload)} {partition offset : Nat}
    (below : offset < Positions.highest batch partition) :
    ∃ record ∈ batch,
      record.partition = partition ∧ offset ≤ record.offset := by
  induction batch with
  | nil => exact absurd below (Nat.not_lt_zero offset)
  | cons head tail ih =>
      have later :
          offset < Positions.highest tail partition →
            ∃ record ∈ head :: tail,
              record.partition = partition ∧ offset ≤ record.offset := by
        intro inTail
        obtain ⟨record, member, facts⟩ := ih inTail
        exact ⟨record, List.mem_cons_of_mem head member, facts⟩
      unfold Positions.highest at below
      rw [List.foldr_cons] at below
      split at below
      · rename_i same
        rcases Nat.lt_or_ge offset (head.offset + 1) with here | beyond
        · exact ⟨head, List.mem_cons_self, same, Nat.le_of_lt_succ here⟩
        · exact later (by unfold Positions.highest; omega)
      · exact later below

theorem Record.below_after_iff
    {record other : Record Payload} {positions : Positions} :
    other.Below (positions.after record) ↔
      if other.partition = record.partition then
        other.offset ≤ record.offset
      else other.Below positions := by
  unfold Record.Below Positions.after
  by_cases same : other.partition = record.partition
  · rw [if_pos same, same, Function.update_self, Nat.lt_succ_iff]
  · rw [if_neg same, Function.update_of_ne same]

theorem Record.below_of_below_commit
    {record : Record Payload} {positions : Positions}
    {batch : List (Record Payload)} {stored : Nat → Bool}
    (below : record.Below (positions.commit batch stored)) :
    record.Below positions ∨
      ∃ last ∈ batch,
        last.partition = record.partition ∧ record.offset ≤ last.offset := by
  unfold Record.Below Positions.commit at below
  split at below
  · exact Or.inr (Positions.exists_of_lt_highest below)
  · exact Or.inl below

namespace Topic

variable {topic : Topic Payload} {positions : Positions}
  {record : Record Payload} {partition : Nat}

/-- What comes earlier in the partition than the next record is below the
position. -/
theorem next_spec (found : topic.next positions partition = some record) :
    record ∈ topic.records ∧ record.partition = partition ∧
      ∀ other ∈ topic.records, other.partition = partition →
        other.offset < record.offset → other.Below positions := by
  obtain ⟨passes, initial, rest, split, skipped⟩ :=
    List.find?_eq_some_iff_append.mp found
  have isPartition := (of_decide_eq_true passes).1
  refine ⟨List.mem_of_find?_eq_some found, isPartition, ?_⟩
  intro other member same earlier
  have ordered := topic.ordered
  rw [split] at member ordered
  rcases List.mem_append.mp member with before | after
  · have refused := skipped other before
    by_contra above
    rw [decide_eq_true ⟨same, above⟩] at refused
    cases refused
  · rcases List.mem_cons.mp after with rfl | later
    · exact absurd earlier (Nat.lt_irrefl _)
    · have fromRecord := (List.pairwise_append.mp ordered).2.1
      have behind :=
        (List.pairwise_cons.mp fromRecord).1 other later
          (isPartition.trans same.symm)
      exact absurd earlier (Nat.lt_asymm behind)

/-- Every offset below the position has a record at it or beyond. -/
def Reached (topic : Topic Payload) (positions : Positions) : Prop :=
  ∀ partition, ∀ offset < positions partition,
    ∃ record ∈ topic.records,
      record.partition = partition ∧ offset ≤ record.offset

theorem reached_start : topic.Reached Positions.start :=
  fun _ offset below => absurd below (Nat.not_lt_zero offset)

theorem Reached.append (reached : topic.Reached positions)
    (follows : record.Follows topic.records) :
    (topic.append record follows).Reached positions := by
  intro partition offset below
  obtain ⟨stored, member, facts⟩ := reached partition offset below
  exact ⟨stored, List.mem_append_left _ member, facts⟩

theorem Reached.after
    (reached : topic.Reached positions) (member : record ∈ topic.records) :
    topic.Reached (positions.after record) := by
  intro partition offset below
  unfold Positions.after at below
  by_cases same : partition = record.partition
  · subst same
    rw [Function.update_self] at below
    exact ⟨record, member, rfl, Nat.le_of_lt_succ below⟩
  · rw [Function.update_of_ne same] at below
    exact reached partition offset below

theorem Reached.resume {other : Positions} (reached : topic.Reached positions)
    (otherReached : topic.Reached other) (partition : Nat) :
    topic.Reached (positions.resume other partition) := by
  intro wanted offset below
  unfold Positions.resume at below
  by_cases same : wanted = partition
  · subst same
    rw [Function.update_self] at below
    exact otherReached wanted offset below
  · rw [Function.update_of_ne same] at below
    exact reached wanted offset below

theorem Reached.commit {batch : List (Record Payload)} {stored : Nat → Bool}
    (reached : topic.Reached positions)
    (inTopic : ∀ record ∈ batch, record ∈ topic.records) :
    topic.Reached (positions.commit batch stored) := by
  intro partition offset below
  unfold Positions.commit at below
  split at below
  · obtain ⟨last, member, facts⟩ := Positions.exists_of_lt_highest below
    exact ⟨last, inTopic last member, facts⟩
  · exact reached partition offset below

/-- Every record below the position satisfies `done`. -/
def Settled (topic : Topic Payload) (done : Record Payload → Prop)
    (positions : Positions) : Prop :=
  ∀ record ∈ topic.records, record.Below positions → done record

/-- Every record up to the given one in its partition satisfies `done`. -/
def SettledUpTo (topic : Topic Payload) (done : Record Payload → Prop)
    (last : Record Payload) : Prop :=
  ∀ record ∈ topic.records, last.partition = record.partition →
    record.offset ≤ last.offset → done record

variable {done : Record Payload → Prop}

theorem settled_start : topic.Settled done Positions.start :=
  fun record _ below => absurd below (Nat.not_lt_zero record.offset)

theorem Settled.mono {better : Record Payload → Prop}
    (weaker : ∀ record, done record → better record)
    (settled : topic.Settled done positions) : topic.Settled better positions :=
  fun record member below => weaker record (settled record member below)

theorem SettledUpTo.mono {better : Record Payload → Prop}
    {last : Record Payload} (weaker : ∀ record, done record → better record)
    (settled : topic.SettledUpTo done last) : topic.SettledUpTo better last :=
  fun record member same upTo =>
    weaker record (settled record member same upTo)

/-- A new record lies beyond every position reached so far. -/
theorem Settled.append (settled : topic.Settled done positions)
    (reached : topic.Reached positions)
    (follows : record.Follows topic.records) :
    (topic.append record follows).Settled done positions := by
  intro other member below
  rcases List.mem_append.mp member with stored | isNew
  · exact settled other stored below
  · rw [List.mem_singleton.mp isNew] at below
    obtain ⟨last, lastMember, same, upTo⟩ :=
      reached record.partition record.offset below
    exact absurd (follows last lastMember same) (Nat.not_lt.mpr upTo)

theorem SettledUpTo.append {last : Record Payload}
    (settled : topic.SettledUpTo done last) (member : last ∈ topic.records)
    (follows : record.Follows topic.records) :
    (topic.append record follows).SettledUpTo done last := by
  intro other otherMember same upTo
  rcases List.mem_append.mp otherMember with stored | isNew
  · exact settled other stored same upTo
  · rw [List.mem_singleton.mp isNew] at same upTo
    exact absurd (follows last member same) (Nat.not_lt.mpr upTo)

theorem Settled.next (settled : topic.Settled done positions)
    (found : topic.next positions partition = some record) :
    topic.SettledUpTo (fun other => done other ∨ other = record) record := by
  obtain ⟨member, isPartition, earlier⟩ := next_spec found
  intro other otherMember same upTo
  rcases Nat.lt_or_eq_of_le upTo with before | equal
  · left
    apply settled other otherMember
    exact earlier other otherMember (same.symm.trans isPartition) before
  · exact Or.inr (record_unique otherMember member same.symm equal)

theorem Settled.after (settled : topic.Settled done positions)
    (upTo : topic.SettledUpTo done record) :
    topic.Settled done (positions.after record) := by
  intro other member below
  rw [Record.below_after_iff] at below
  split at below
  · rename_i same
    exact upTo other member same.symm below
  · exact settled other member below

theorem Settled.resume
    {other : Positions} (settled : topic.Settled done positions)
    (otherSettled : topic.Settled done other) (partition : Nat) :
    topic.Settled done (positions.resume other partition) := by
  intro record member below
  unfold Record.Below Positions.resume at below
  by_cases same : record.partition = partition
  · rw [same, Function.update_self, ← same] at below
    exact otherSettled record member below
  · rw [Function.update_of_ne same] at below
    exact settled record member below

theorem Settled.commit {batch : List (Record Payload)} {stored : Nat → Bool}
    (settled : topic.Settled done positions)
    (upTo : ∀ last ∈ batch, topic.SettledUpTo done last) :
    topic.Settled done (positions.commit batch stored) := by
  intro other member below
  rcases Record.below_of_below_commit below with before | inBatch
  · exact settled other member before
  · obtain ⟨last, lastMember, same, isUpTo⟩ := inBatch
    exact upTo last lastMember other member same isUpTo

end Topic

end TicketWave.Library
