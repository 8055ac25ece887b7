import Mathlib.Data.List.Basic

/-!
# What a queue will have said in the end

`Ahead waiting out current`: the value of a listener will be `current` once all
that waits has gone out.  `CatchesUp` is about one who starts from a value read
earlier.
-/

namespace TicketWave.Library

universe u v

variable {Item : Type u} {Value : Type v}

section Last

variable (concerns : Item → Bool) (value : Item → Value)

def lastValue (items : List Item) : Option Value :=
  (items.filter concerns).getLast?.map value

variable {concerns value}

theorem lastValue_append (first second : List Item) :
    lastValue concerns value (first ++ second) =
      (lastValue concerns value second).or
        (lastValue concerns value first) := by
  unfold lastValue
  rw [List.filter_append, List.getLast?_append]
  cases (second.filter concerns).getLast? <;> rfl

theorem lastValue_of_none
    {items : List Item} (silent : ∀ item ∈ items, concerns item = false) :
    lastValue concerns value items = none := by
  have empty : items.filter concerns = [] := by
    apply List.filter_eq_nil_iff.mpr
    intro item member passed
    rw [silent item member] at passed
    cases passed
  rw [lastValue, empty]
  rfl

theorem lastValue_of_constant
    {items : List Item} {sample : Item} {current : Value}
    (member : sample ∈ items) (concerned : concerns sample = true)
    (every : ∀ item ∈ items, concerns item = true → value item = current) :
    lastValue concerns value items = some current := by
  have nonempty : items.filter concerns ≠ [] :=
    List.ne_nil_of_mem (List.mem_filter.mpr ⟨member, concerned⟩)
  obtain ⟨lastMember, lastConcerned⟩ :=
    List.mem_filter.mp (List.getLast_mem nonempty)
  rw [lastValue, List.getLast?_eq_some_getLast nonempty, Option.map_some,
    every _ lastMember lastConcerned]

/-- In a list that is in order, the last item that concerns us comes behind
all the others that do. -/
theorem lastValue_of_sorted {before : Item → Item → Prop} {items : List Item}
    {sample : Item} (sorted : items.Pairwise before) (member : sample ∈ items)
    (concerned : concerns sample = true) :
    ∃ last ∈ items, concerns last = true ∧
      lastValue concerns value items = some (value last) ∧
      ∀ item ∈ items, concerns item = true →
        item = last ∨ before item last := by
  have nonempty : items.filter concerns ≠ [] :=
    List.ne_nil_of_mem (List.mem_filter.mpr ⟨member, concerned⟩)
  have kept : (items.filter concerns).Pairwise before :=
    sorted.sublist List.filter_sublist
  obtain ⟨initial, last, shape⟩ :=
    (List.eq_nil_or_concat (items.filter concerns)).resolve_left nonempty
  rw [List.concat_eq_append] at shape
  have isLast : last ∈ items.filter concerns := by
    rw [shape]
    exact List.mem_append_right _ (List.mem_singleton_self last)
  obtain ⟨lastMember, lastConcerned⟩ := List.mem_filter.mp isLast
  refine ⟨last, lastMember, lastConcerned, ?_, ?_⟩
  · rw [lastValue, shape, List.getLast?_concat, Option.map_some]
  · intro item itemMember itemConcerned
    have inFilter : item ∈ items.filter concerns :=
      List.mem_filter.mpr ⟨itemMember, itemConcerned⟩
    rw [shape] at inFilter kept
    rcases List.mem_append.mp inFilter with earlier | isItem
    · exact Or.inr
        ((List.pairwise_append.mp kept).2.2 item earlier last
          (List.mem_singleton_self last))
    · exact Or.inl (List.mem_singleton.mp isItem)

-- The list tells the changes of a value in their order.  Whoever has a copy of
-- the value and applies what is still to come ends up with the current value.
variable (concerns value) in
/-- The copy becomes current once the items to come are applied to it. -/
def CatchesUp (items : List Item) (copy current : Value) : Prop :=
  (lastValue concerns value items).getD copy = current

variable {items : List Item} {copy current : Value}

theorem CatchesUp.append_silent
    (catches : CatchesUp concerns value items copy current)
    {added : List Item} (silent : ∀ item ∈ added, concerns item = false) :
    CatchesUp concerns value (items ++ added) copy current := by
  unfold CatchesUp
  rw [lastValue_append, lastValue_of_none silent, Option.none_or]
  exact catches

theorem catchesUp_append
    {added : List Item} (last : lastValue concerns value added = some current) :
    CatchesUp concerns value (items ++ added) copy current := by
  unfold CatchesUp
  rw [lastValue_append, last]
  rfl

theorem CatchesUp.apply {item : Item}
    (catches : CatchesUp concerns value (item :: items) copy current) :
    CatchesUp concerns value items
      (if concerns item = true then value item else copy) current := by
  have split :
      lastValue concerns value (item :: items) =
        (lastValue concerns value items).or
          (lastValue concerns value [item]) :=
    lastValue_append [item] items
  unfold CatchesUp at catches ⊢
  rw [split] at catches
  cases later : lastValue concerns value items with
  | some last =>
      rw [later] at catches
      exact catches
  | none =>
      rw [later, Option.none_or] at catches
      by_cases concerned : concerns item = true
      · rw [if_pos concerned]
        have only : lastValue concerns value [item] = some (value item) := by
          simp [lastValue, concerned]
        rw [only] at catches
        exact catches
      · rw [if_neg concerned]
        have nothing : lastValue concerns value [item] = none := by
          simp [lastValue, concerned]
        rw [nothing] at catches
        exact catches

theorem CatchesUp.skip {first : List Item}
    (catches : CatchesUp concerns value (first ++ items) copy current)
    (silent : ∀ item ∈ first, concerns item = false) :
    CatchesUp concerns value items copy current := by
  unfold CatchesUp at catches ⊢
  rw [lastValue_append, lastValue_of_none silent, Option.or_none] at catches
  exact catches

theorem CatchesUp.eq_of_silent
    (catches : CatchesUp concerns value items copy current)
    (silent : ∀ item ∈ items, concerns item = false) : copy = current := by
  unfold CatchesUp at catches
  rw [lastValue_of_none silent] at catches
  exact catches

/-- A copy taken after `taken` items may have the last of them applied to it
once more. -/
theorem CatchesUp.again {position taken : Nat}
    (catches : CatchesUp concerns value (items.drop taken) copy current)
    (told :
      ∀ last, lastValue concerns value (items.take taken) = some last →
        last = copy) (within : position ≤ taken) :
    CatchesUp concerns value (items.drop position) copy current := by
  have split :
      items.drop position =
        (items.take taken).drop position ++ items.drop taken := by
    conv_lhs => rw [← List.take_append_drop taken items]
    by_cases short : items.length ≤ taken
    · rw [List.drop_eq_nil_of_le short, List.append_nil, List.append_nil]
    · rw [List.drop_append_of_le_length]
      rw [List.length_take]
      omega
  unfold CatchesUp at catches ⊢
  rw [split, lastValue_append]
  cases later : lastValue concerns value (items.drop taken) with
  | some last =>
      rw [later] at catches
      exact catches
  | none =>
      rw [later] at catches
      rw [Option.none_or]
      cases repeated :
          lastValue concerns value ((items.take taken).drop position) with
      | none => exact catches
      | some last =>
          have isLast :
              lastValue concerns value (items.take taken) = some last := by
            rw [← List.take_append_drop position (items.take taken),
              lastValue_append, repeated]
            rfl
          rw [told last isLast]
          exact catches

end Last

section Ahead

variable (before : Item → Item → Prop) (concerns : Item → Bool)
  (value : Item → Value)

/-- Some waiting item concerns us, and each that does has the value `current`
or is followed by one that has it. -/
structure Announces
    (waiting : List Item) (current : Option Value) : Prop where
  exists_item : ∃ item ∈ waiting, concerns item = true
  every :
    ∀ item ∈ waiting, concerns item = true →
      some (value item) = current ∨
        ∃ later ∈ waiting, concerns later = true ∧
          some (value later) = current ∧ before item later ∧
          item ≠ later

def Ahead (waiting out : List Item) (current : Option Value) : Prop :=
  Announces before concerns value waiting current ∨
    (∀ item ∈ waiting, concerns item = false) ∧
      lastValue concerns value out = current

variable {before concerns value} {waiting next out : List Item}
  {current : Option Value}

theorem Ahead.of_same (ahead : Ahead before concerns value waiting out current)
    (same : ∀ item, concerns item = true → (item ∈ next ↔ item ∈ waiting)) :
    Ahead before concerns value next out current := by
  rcases ahead with ⟨⟨item, member, concerned⟩, every⟩ | ⟨silent, last⟩
  · left
    refine ⟨⟨item, (same item concerned).mpr member, concerned⟩, ?_⟩
    intro item itemMember itemConcerned
    have old := (same item itemConcerned).mp itemMember
    rcases every item old itemConcerned with
      isCurrent | ⟨later, laterMember, laterConcerned, facts⟩
    · exact Or.inl isCurrent
    · exact Or.inr
        ⟨later, (same later laterConcerned).mpr laterMember,
          laterConcerned, facts⟩
  · right
    refine ⟨?_, last⟩
    intro item member
    cases concerned : concerns item with
    | false => rfl
    | true =>
        have old := (same item concerned).mp member
        rw [silent item old] at concerned
        cases concerned

/-- What is added has the new value and comes behind what waits. -/
theorem ahead_of_added {added : List Item} {new : Option Value}
    (members : ∀ item, item ∈ next ↔ item ∈ waiting ∨ item ∈ added)
    (someAdded : ∃ item ∈ added, concerns item = true)
    (values : ∀ item ∈ added, concerns item = true → some (value item) = new)
    (behind :
      ∀ item ∈ waiting, concerns item = true →
        ∀ later ∈ added, concerns later = true →
          before item later ∧ item ≠ later) :
    Ahead before concerns value next out new := by
  left
  obtain ⟨last, isAdded, lastConcerned⟩ := someAdded
  have lastMember : last ∈ next := (members last).mpr (Or.inr isAdded)
  refine ⟨⟨last, lastMember, lastConcerned⟩, ?_⟩
  intro item member concerned
  rcases (members item).mp member with old | new
  · exact Or.inr
      ⟨last, lastMember, lastConcerned, values last isAdded lastConcerned,
        behind item old concerned last isAdded lastConcerned⟩
  · exact Or.inl (values item new concerned)

theorem Ahead.depart {first rest : List Item}
    (ahead : Ahead before concerns value (first ++ rest) out current)
    (sorted : (first ++ rest).Pairwise before)
    (antisymmetric :
      ∀ left ∈ first ++ rest, ∀ right ∈ first ++ rest,
        before left right → before right left → left = right) :
    Ahead before concerns value rest (out ++ first) current := by
  obtain ⟨firstSorted, _, across⟩ := List.pairwise_append.mp sorted
  have inFirst : ∀ item ∈ first, item ∈ first ++ rest :=
    fun _ member => List.mem_append_left _ member
  have inRest : ∀ item ∈ rest, item ∈ first ++ rest :=
    fun _ member => List.mem_append_right _ member
  rcases ahead with announces | ⟨silent, last⟩
  · by_cases left : ∃ item ∈ rest, concerns item = true
    · -- what follows an item of the rest is in the rest as well
      refine Or.inl ⟨left, ?_⟩
      intro item member concerned
      rcases announces.every item (inRest item member) concerned with
        isCurrent | ⟨later, laterMember, laterConcerned, isCurrent, follows,
          different⟩
      · exact Or.inl isCurrent
      · rcases List.mem_append.mp laterMember with gone | stays
        · have precedes := across later gone item member
          exact absurd
            (antisymmetric item (inRest item member) later laterMember
              follows precedes)
            different
        · exact Or.inr
            ⟨later, stays, laterConcerned, isCurrent, follows, different⟩
    · -- everything that concerns us goes out, the last of it with `current`
      right
      have silent : ∀ item ∈ rest, concerns item = false := by
        intro item member
        apply Bool.eq_false_iff.mpr
        intro concerned
        exact left ⟨item, member, concerned⟩
      refine ⟨silent, ?_⟩
      obtain ⟨item, member, concerned⟩ := announces.exists_item
      have isFirst : item ∈ first := by
        rcases List.mem_append.mp member with isFirst | isRest
        · exact isFirst
        · rw [silent item isRest] at concerned
          cases concerned
      obtain ⟨last, lastMember, lastConcerned, lastIs, behind⟩ :=
        lastValue_of_sorted firstSorted isFirst concerned
      rw [lastValue_append, lastIs, Option.some_or]
      rcases announces.every last (inFirst last lastMember) lastConcerned with
        isCurrent | ⟨later, laterMember, laterConcerned, _, follows, different⟩
      · exact isCurrent
      · rcases List.mem_append.mp laterMember with laterFirst | laterRest
        · rcases behind later laterFirst laterConcerned with equal | precedes
          · exact absurd equal.symm different
          · exact absurd
              (antisymmetric last (inFirst last lastMember) later
                laterMember follows precedes)
              different
        · rw [silent later laterRest] at laterConcerned
          cases laterConcerned
  · right
    refine ⟨fun item member => silent item (inRest item member), ?_⟩
    have nothing : lastValue concerns value first = none :=
      lastValue_of_none fun item member => silent item (inFirst item member)
    rw [lastValue_append, nothing, Option.none_or]
    exact last

end Ahead

end TicketWave.Library
