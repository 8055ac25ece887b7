import TicketWave.Library.Table

/-!
# Registries of running work

Values under numbers drawn from a counter.  Every operation has one lemma that
says what `get` reads afterwards.
-/

namespace TicketWave.Library

universe u

structure Registry (Value : Type u) where
  entries : List (Nat × Value)
  next : Nat
  distinct : (entries.map Prod.fst).Nodup
  bounded : ∀ entry ∈ entries, entry.1 < next

namespace Registry

variable {Value : Type u}

def empty : Registry Value where
  entries := []
  next := 0
  distinct := List.nodup_nil
  bounded := nofun

def get (registry : Registry Value) (id : Nat) : Option Value :=
  (lookup Prod.fst registry.entries id).map Prod.snd

/-- Register a value under the next number. -/
def launch (registry : Registry Value) (value : Value) : Registry Value where
  entries := (registry.next, value) :: registry.entries
  next := registry.next + 1
  distinct := by
    refine List.nodup_cons.mpr ⟨?_, registry.distinct⟩
    intro taken
    obtain ⟨entry, member, same⟩ := List.mem_map.mp taken
    have bound := registry.bounded entry member
    omega
  bounded := by
    intro entry member
    rcases List.mem_cons.mp member with equal | stored
    · rw [equal]
      exact Nat.lt_succ_self registry.next
    · exact Nat.lt_succ_of_lt (registry.bounded entry stored)

/-- Use up a number without registering anything. -/
def skip (registry : Registry Value) : Registry Value where
  entries := registry.entries
  next := registry.next + 1
  distinct := registry.distinct
  bounded := fun entry member =>
    Nat.lt_succ_of_lt (registry.bounded entry member)

/-- Replace the value registered under a number. -/
def put (registry : Registry Value) (id : Nat) (value : Value) :
    Registry Value where
  entries :=
    updateWhere (fun entry => decide (entry.1 = id))
      (fun entry => (entry.1, value)) registry.entries
  next := registry.next
  distinct := by
    have keys :
        (updateWhere (fun entry => decide (entry.1 = id))
            (fun entry => (entry.1, value)) registry.entries).map
          Prod.fst =
        registry.entries.map Prod.fst :=
      map_key_updateWhere (by intro entry; rfl) registry.entries
    rw [keys]
    exact registry.distinct
  bounded := by
    intro entry member
    obtain ⟨old, stored, shape⟩ := mem_updateWhere.mp member
    have bound := registry.bounded old stored
    by_cases same : old.1 = id
    · rw [if_pos (decide_eq_true same)] at shape
      rw [← shape]
      exact bound
    · rw [if_neg (by simpa using same)] at shape
      rw [← shape]
      exact bound

def finish (registry : Registry Value) (id : Nat) : Registry Value where
  entries := registry.entries.filter fun entry => decide (entry.1 ≠ id)
  next := registry.next
  distinct := registry.distinct.sublist (List.filter_sublist.map Prod.fst)
  bounded := fun entry member =>
    registry.bounded entry (List.mem_filter.mp member).1

variable {registry : Registry Value} {id : Nat} {value old new : Value}
  {test : Value → Bool}

theorem get_eq_some_iff :
    registry.get id = some value ↔ (id, value) ∈ registry.entries := by
  constructor
  · intro found
    obtain ⟨entry, stored, rfl⟩ := Option.map_eq_some_iff.mp found
    have same : entry.1 = id := key_of_lookup stored
    rw [← same]
    exact mem_of_lookup stored
  · intro member
    have stored : lookup Prod.fst registry.entries id = some (id, value) :=
      lookup_of_mem registry.distinct member
    rw [get, stored, Option.map_some]

theorem lt_next_of_get (found : registry.get id = some value) :
    id < registry.next :=
  registry.bounded (id, value) (get_eq_some_iff.mp found)

@[simp]
theorem get_skip (registry : Registry Value) (id : Nat) :
    registry.skip.get id = registry.get id :=
  rfl

theorem get_launch (registry : Registry Value) (value : Value) (id : Nat) :
    (registry.launch value).get id =
      if id = registry.next then some value else registry.get id := by
  have unfolded :
      (registry.launch value).get id =
        (lookup Prod.fst ((registry.next, value) :: registry.entries)
          id).map Prod.snd :=
    rfl
  rw [unfolded, lookup_cons]
  by_cases same : registry.next = id
  · simp [same]
  · rw [if_neg same, if_neg (Ne.symm same), get]

theorem get_launch_self (registry : Registry Value) (value : Value) :
    (registry.launch value).get registry.next = some value := by
  rw [get_launch, if_pos rfl]

theorem get_launch_of_get (found : registry.get id = some old) :
    (registry.launch value).get id = some old := by
  have isOld := lt_next_of_get found
  rw [get_launch, if_neg (Nat.ne_of_lt isOld), found]

theorem get_put
    (registry : Registry Value) (id : Nat) (value : Value) (wanted : Nat) :
    (registry.put id value).get wanted =
      if wanted = id then (registry.get id).map fun _ => value
      else registry.get wanted := by
  have updated :
      lookup Prod.fst (registry.put id value).entries wanted =
        (lookup Prod.fst registry.entries wanted).map fun entry =>
          if decide (entry.1 = id) then (entry.1, value) else entry :=
    lookup_updateWhere (by intro entry; rfl) registry.entries wanted
  rw [get, updated, get, get]
  by_cases same : wanted = id
  · subst same
    cases found : lookup Prod.fst registry.entries wanted with
    | none => simp
    | some entry =>
        have key : entry.1 = wanted := key_of_lookup found
        simp [key]
  · rw [if_neg same]
    cases found : lookup Prod.fst registry.entries wanted with
    | none => rfl
    | some entry =>
        have key : entry.1 = wanted := key_of_lookup found
        have different : entry.1 ≠ id := by
          rw [key]
          exact same
        simp [different]

theorem get_put_self (found : registry.get id = some old) :
    (registry.put id value).get id = some value := by
  rw [get_put, if_pos rfl, found, Option.map_some]

theorem get_put_of_ne {wanted : Nat} (different : wanted ≠ id) :
    (registry.put id value).get wanted = registry.get wanted := by
  rw [get_put, if_neg different]

theorem get_finish (registry : Registry Value) (id wanted : Nat) :
    (registry.finish id).get wanted =
      if wanted = id then none else registry.get wanted := by
  by_cases same : wanted = id
  · rw [if_pos same]
    cases found : (registry.finish id).get wanted with
    | none => rfl
    | some value =>
        have kept := (List.mem_filter.mp (get_eq_some_iff.mp found)).2
        simp [same] at kept
  · rw [if_neg same]
    cases found : registry.get wanted with
    | none =>
        cases kept : (registry.finish id).get wanted with
        | none => rfl
        | some value =>
            have member := (List.mem_filter.mp (get_eq_some_iff.mp kept)).1
            rw [get_eq_some_iff.mpr member] at found
            cases found
    | some value =>
        apply get_eq_some_iff.mpr
        exact List.mem_filter.mpr
          ⟨get_eq_some_iff.mp found, by simpa using same⟩

theorem get_finish_of_ne {wanted : Nat} (different : wanted ≠ id) :
    (registry.finish id).get wanted = registry.get wanted := by
  rw [get_finish, if_neg different]

theorem cases_of_get_launch
    (found : (registry.launch new).get id = some value) :
    id = registry.next ∧ value = new ∨ registry.get id = some value := by
  rw [get_launch] at found
  by_cases isNew : id = registry.next
  · rw [if_pos isNew] at found
    exact Or.inl ⟨isNew, (Option.some.inj found).symm⟩
  · rw [if_neg isNew] at found
    exact Or.inr found

theorem cases_of_get_put {other : Nat}
    (found : (registry.put id new).get other = some value) :
    other = id ∧ value = new ∨
      other ≠ id ∧ registry.get other = some value := by
  rw [get_put] at found
  by_cases same : other = id
  · rw [if_pos same] at found
    obtain ⟨_, _, equal⟩ := Option.map_eq_some_iff.mp found
    exact Or.inl ⟨same, equal.symm⟩
  · rw [if_neg same] at found
    exact Or.inr ⟨same, found⟩

theorem get_of_get_finish {other : Nat}
    (found : (registry.finish id).get other = some value) :
    other ≠ id ∧ registry.get other = some value := by
  rw [get_finish] at found
  by_cases same : other = id
  · rw [if_pos same] at found
    cases found
  · rw [if_neg same] at found
    exact ⟨same, found⟩

/-- Some registered value satisfies the test. -/
def any (registry : Registry Value) (test : Value → Bool) : Bool :=
  registry.entries.any fun entry => test entry.2

theorem any_eq_true_iff :
    registry.any test = true ↔
      ∃ id value, registry.get id = some value ∧ test value = true := by
  rw [any, List.any_eq_true]
  constructor
  · intro found
    obtain ⟨⟨id, value⟩, member, passed⟩ := found
    exact ⟨id, value, get_eq_some_iff.mpr member, passed⟩
  · intro found
    obtain ⟨id, value, stored, passed⟩ := found
    exact ⟨(id, value), get_eq_some_iff.mp stored, passed⟩

theorem test_of_not_any (absent : ¬ registry.any test = true) {id : Nat}
    {value : Value} (found : registry.get id = some value) :
    test value = false := by
  cases tested : test value with
  | false => rfl
  | true => exact absurd (any_eq_true_iff.mpr ⟨id, value, found, tested⟩) absent

theorem any_launch
    (registry : Registry Value) (value : Value) (test : Value → Bool) :
    (registry.launch value).any test = (test value || registry.any test) :=
  rfl

theorem any_put_of_test (found : registry.get id = some old)
    (passed : test new = true) : (registry.put id new).any test = true := by
  exact any_eq_true_iff.mpr ⟨id, new, get_put_self found, passed⟩

theorem any_put_of_any (found : registry.get id = some old)
    (kept : test old = true → test new = true)
    (some : registry.any test = true) :
    (registry.put id new).any test = true := by
  obtain ⟨other, value, stored, passed⟩ := any_eq_true_iff.mp some
  by_cases same : other = id
  · subst same
    rw [found] at stored
    cases stored
    exact any_put_of_test found (kept passed)
  · apply any_eq_true_iff.mpr
    refine ⟨other, value, ?_, passed⟩
    rw [get_put_of_ne same, stored]

theorem any_of_any_put (some : (registry.put id new).any test = true) :
    test new = true ∨ registry.any test = true := by
  obtain ⟨other, value, found, passed⟩ := any_eq_true_iff.mp some
  rcases cases_of_get_put found with ⟨_, rfl⟩ | ⟨_, stored⟩
  · exact Or.inl passed
  · exact Or.inr (any_eq_true_iff.mpr ⟨other, value, stored, passed⟩)

theorem any_finish_of_any (found : registry.get id = some old)
    (failed : test old = false) (some : registry.any test = true) :
    (registry.finish id).any test = true := by
  obtain ⟨other, value, stored, passed⟩ := any_eq_true_iff.mp some
  have different : other ≠ id := by
    rintro rfl
    rw [found] at stored
    cases stored
    rw [failed] at passed
    cases passed
  apply any_eq_true_iff.mpr
  refine ⟨other, value, ?_, passed⟩
  rw [get_finish_of_ne different, stored]

theorem any_of_any_finish (some : (registry.finish id).any test = true) :
    registry.any test = true := by
  obtain ⟨other, value, found, passed⟩ := any_eq_true_iff.mp some
  have stored := (get_of_get_finish found).2
  exact any_eq_true_iff.mpr ⟨other, value, stored, passed⟩

/-- How many registered values satisfy the test. -/
def count (registry : Registry Value) (test : Value → Bool) : Nat :=
  registry.entries.countP fun entry => test entry.2

theorem count_launch
    (registry : Registry Value) (value : Value) (test : Value → Bool) :
    (registry.launch value).count test =
      registry.count test + if test value then 1 else 0 :=
  List.countP_cons

theorem count_finish (found : registry.get id = some value)
    (test : Value → Bool) :
    (registry.finish id).count test + (if test value then 1 else 0) =
      registry.count test :=
  countP_remove_key registry.distinct (get_eq_some_iff.mp found) _

def Exclusive (registry : Registry Value) (test : Value → Bool) : Prop :=
  ∀ ⦃left right : Nat⦄ ⦃leftValue rightValue : Value⦄,
    registry.get left = some leftValue →
      registry.get right = some rightValue →
        test leftValue = true → test rightValue = true → left = right

section Exclusive

variable {registry : Registry Value} {test : Value → Bool} {value : Value}

theorem Exclusive.launch (exclusive : registry.Exclusive test)
    (fails : test value = false) : (registry.launch value).Exclusive test := by
  have stored :
      ∀ {id : Nat} {found : Value},
        (registry.launch value).get id = some found →
          test found = true → registry.get id = some found := by
    intro id found isFound passes
    rcases cases_of_get_launch isFound with ⟨_, rfl⟩ | old
    · rw [fails] at passes
      cases passes
    · exact old
  intro left right leftValue rightValue leftFound rightFound leftPasses
    rightPasses
  exact exclusive (stored leftFound leftPasses) (stored rightFound rightPasses)
    leftPasses rightPasses

theorem exclusive_launch_of_none (none : registry.any test = false) :
    (registry.launch value).Exclusive test := by
  have isNew :
      ∀ {id : Nat} {found : Value},
        (registry.launch value).get id = some found →
          test found = true → id = registry.next := by
    intro id found isFound passes
    rcases cases_of_get_launch isFound with ⟨same, _⟩ | old
    · exact same
    · rw [test_of_not_any (Bool.eq_false_iff.mp none) old] at passes
      cases passes
  intro left right leftValue rightValue leftFound rightFound leftPasses
    rightPasses
  rw [isNew leftFound leftPasses, isNew rightFound rightPasses]

theorem Exclusive.put {id : Nat} (exclusive : registry.Exclusive test)
    (alone :
      test value = true →
        ∀ {other : Nat} {old : Value}, other ≠ id →
          registry.get other = some old → test old = false) :
    (registry.put id value).Exclusive test := by
  intro left right leftValue rightValue leftFound rightFound leftPasses
    rightPasses
  rcases cases_of_get_put leftFound with
    ⟨leftIs, rfl⟩ | ⟨leftIsNot, leftStored⟩
  · rcases cases_of_get_put rightFound with
      ⟨rightIs, _⟩ | ⟨rightIsNot, rightStored⟩
    · rw [leftIs, rightIs]
    · rw [alone leftPasses rightIsNot rightStored] at rightPasses
      cases rightPasses
  · rcases cases_of_get_put rightFound with
      ⟨_, rfl⟩ | ⟨_, rightStored⟩
    · rw [alone rightPasses leftIsNot leftStored] at leftPasses
      cases leftPasses
    · exact exclusive leftStored rightStored leftPasses rightPasses

theorem Exclusive.finish {id : Nat} (exclusive : registry.Exclusive test) :
    (registry.finish id).Exclusive test := by
  intro left right leftValue rightValue leftFound rightFound
  exact exclusive (get_of_get_finish leftFound).2
    (get_of_get_finish rightFound).2

end Exclusive

end Registry

/-- The messages have different numbers, all below the counter. -/
structure Numbered
    {Message : Type u} (number : Message → Nat) (sent : List Message)
    (next : Nat) : Prop where
  bounded : ∀ message ∈ sent, number message < next
  distinct :
    ∀ left ∈ sent, ∀ right ∈ sent, number left = number right → left = right

namespace Numbered

variable {Message : Type u} {number : Message → Nat} {sent : List Message}
  {next : Nat}

theorem nil : Numbered number [] next where
  bounded := nofun
  distinct := nofun

theorem skip (numbered : Numbered number sent next) :
    Numbered number sent (next + 1) where
  bounded := fun message member =>
    Nat.lt_succ_of_lt (numbered.bounded message member)
  distinct := numbered.distinct

theorem cons {message : Message} (numbered : Numbered number sent next)
    (isNext : number message = next) :
    Numbered number (message :: sent) (next + 1) where
  bounded := by
    intro other member
    rcases List.mem_cons.mp member with rfl | old
    · rw [isNext]
      exact Nat.lt_succ_self next
    · exact Nat.lt_succ_of_lt (numbered.bounded other old)
  distinct := by
    intro left leftMember right rightMember same
    rcases List.mem_cons.mp leftMember with rfl | leftOld
    · rcases List.mem_cons.mp rightMember with rfl | rightOld
      · rfl
      · have bound := numbered.bounded right rightOld
        omega
    · rcases List.mem_cons.mp rightMember with rfl | rightOld
      · have bound := numbered.bounded left leftOld
        omega
      · exact numbered.distinct left leftOld right rightOld same

end Numbered

end TicketWave.Library
