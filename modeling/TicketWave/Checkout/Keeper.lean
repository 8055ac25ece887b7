import TicketWave.Checkout.Page
import TicketWave.Library.Sorting
import TicketWave.Library.Text

/-!
# When a key is used again

A `KeyKeeper` by itself.  `drawn` counts the calls of `crypto.randomUUID`,
which never returns a value twice.
-/

namespace TicketWave.Checkout

open Library

inductive Use where
  | keyFor (seatIds : List String)
  /-- no error after a success -/
  | settle (error : Option Thrown)
  deriving DecidableEq, Repr

structure Drawing where
  keeper : KeyKeeper
  drawn : Nat
  deriving DecidableEq, Repr

namespace Drawing

def new : Drawing :=
  ⟨⟨none⟩, 0⟩

/-- The call, with the key that `keyFor` returns. -/
def use (random : Nat → String) (state : Drawing) :
    Use → Drawing × Option String
  | .keyFor seatIds =>
      let pending := state.keeper.keyFor seatIds (random state.drawn)
      let isPending :=
        state.keeper.current.map Pending.seats =
          some (KeyKeeper.sortedSeats seatIds)
      (⟨⟨some pending⟩, if isPending then state.drawn else state.drawn + 1⟩,
        some pending.key)
  | .settle error => (⟨state.keeper.settle error, state.drawn⟩, none)

/-- The keeper before the call with this number. -/
def before (random : Nat → String) (uses : List Use) (number : Nat) : Drawing :=
  (uses.take number).foldl (fun state call => (state.use random call).1) new

/-- The key that the call with this number returns. -/
def keyAt (random : Nat → String) (uses : List Use) (number : Nat) :
    Option String :=
  uses[number]?.bind fun call =>
    ((before random uses number).use random call).2

end Drawing

/-- `settle` keeps the key. -/
def unknownOutcome (error : Option Thrown) : Bool :=
  error.any isUnknownOutcome

theorem unknownOutcome_iff (error : Option Thrown) :
    unknownOutcome error = true ↔
      ∃ err, error = some (.api err) ∧ (err.status = 0 ∨ err.status = 504) := by
  rcases error with _ | err | _
  · simp [unknownOutcome]
  · simp [unknownOutcome, isUnknownOutcome]
  · simp [unknownOutcome, isUnknownOutcome]

/-- A seat ID that `join` can be undone for. -/
def Joinable (seatIds : List String) : Prop :=
  ∀ id ∈ seatIds, id ≠ "" ∧ ',' ∉ id.toList

theorem sortedSeats_eq_iff {left right : List String} (leftIds : Joinable left)
    (rightIds : Joinable right) :
    KeyKeeper.sortedSeats left = KeyKeeper.sortedSeats right ↔
      left.Perm right := by
  have parts :
      ∀ {seatIds : List String}, Joinable seatIds →
        ∀ id ∈ seatIds.insertionSort (· ≤ ·), Part ',' id := by
    intro seatIds ids id member
    exact ids id ((List.mem_insertionSort (· ≤ ·)).mp member)
  have sorted :
      left.insertionSort (· ≤ ·) = right.insertionSort (· ≤ ·) ↔
        left.Perm right :=
    insertionSort_eq_iff_perm
  rw [← sorted]
  exact intercalate_inj (parts leftIds) (parts rightIds)

/-- The call is a retry of what is pending for these seats. -/
def Use.Retries (seats : String) : Use → Prop
  | .keyFor seatIds => KeyKeeper.sortedSeats seatIds = seats
  | .settle error => unknownOutcome error = true

instance (seats : String) (call : Use) : Decidable (call.Retries seats) := by
  cases call <;> unfold Use.Retries <;> infer_instance

/-- The key was drawn and is not pending any more. -/
structure Retired (random : Nat → String) (key : String) (state : Drawing) :
    Prop where
  drawn : ∃ number < state.drawn, key = random number
  absent : ∀ pending, state.keeper.current = some pending → pending.key ≠ key

/-- The pending key was drawn. -/
def Drawn (random : Nat → String) (state : Drawing) : Prop :=
  ∀ pending, state.keeper.current = some pending →
    ∃ number < state.drawn, pending.key = random number

section Use

variable {random : Nat → String} {state : Drawing} {seatIds : List String}
  {pending : Pending}

theorem use_keyFor_pending (current : state.keeper.current = some pending)
    (same : KeyKeeper.sortedSeats seatIds = pending.seats) :
    state.use random (.keyFor seatIds) = (state, some pending.key) := by
  obtain ⟨⟨_⟩, drawn⟩ := state
  cases current
  simp [Drawing.use, KeyKeeper.keyFor, same]

theorem use_keyFor_new
    (differs :
      ∀ pending, state.keeper.current = some pending →
        KeyKeeper.sortedSeats seatIds ≠ pending.seats) :
    state.use random (.keyFor seatIds) =
      (⟨⟨some ⟨KeyKeeper.sortedSeats seatIds, random state.drawn⟩⟩,
          state.drawn + 1⟩,
        some (random state.drawn)) := by
  obtain ⟨⟨current⟩, drawn⟩ := state
  cases current with
  | none => simp [Drawing.use, KeyKeeper.keyFor]
  | some pending =>
      have other := (differs pending rfl).symm
      simp [Drawing.use, KeyKeeper.keyFor, other]

theorem cases_keyFor
    (random : Nat → String) (state : Drawing) (seatIds : List String) :
    (∃ pending, state.keeper.current = some pending ∧
        KeyKeeper.sortedSeats seatIds = pending.seats ∧
        state.use random (.keyFor seatIds) = (state, some pending.key)) ∨
      (∀ pending, state.keeper.current = some pending →
          KeyKeeper.sortedSeats seatIds ≠ pending.seats) ∧
        state.use random (.keyFor seatIds) =
          (⟨⟨some ⟨KeyKeeper.sortedSeats seatIds, random state.drawn⟩⟩,
              state.drawn + 1⟩,
            some (random state.drawn)) := by
  by_cases retries :
      ∃ pending, state.keeper.current = some pending ∧
        KeyKeeper.sortedSeats seatIds = pending.seats
  · obtain ⟨pending, current, same⟩ := retries
    exact Or.inl ⟨pending, current, same, use_keyFor_pending current same⟩
  · have differs :
        ∀ pending, state.keeper.current = some pending →
          KeyKeeper.sortedSeats seatIds ≠ pending.seats :=
      fun pending current same => retries ⟨pending, current, same⟩
    exact Or.inr ⟨differs, use_keyFor_new differs⟩

theorem use_settle
    (random : Nat → String) (state : Drawing) (error : Option Thrown) :
    state.use random (.settle error) =
      (if unknownOutcome error then state else ⟨⟨none⟩, state.drawn⟩,
        none) := by
  cases error with
  | none => rfl
  | some err =>
      have isUnknown : unknownOutcome (some err) = isUnknownOutcome err := rfl
      rw [isUnknown]
      by_cases unknown : isUnknownOutcome err = true
      · rw [if_pos unknown]
        simp only [Drawing.use, KeyKeeper.settle, if_pos unknown]
      · rw [if_neg unknown]
        simp only [Drawing.use, KeyKeeper.settle, if_neg unknown]

theorem drawn_use (isDrawn : Drawn random state) (call : Use) :
    Drawn random (state.use random call).1 := by
  cases call with
  | keyFor seatIds =>
      rcases cases_keyFor random state seatIds with
        ⟨pending, _, _, used⟩ | ⟨_, used⟩
      · rw [used]
        exact isDrawn
      · rw [used]
        rintro pending ⟨⟩
        exact ⟨state.drawn, Nat.lt_succ_self _, rfl⟩
  | settle error =>
      rw [use_settle]
      split
      · exact isDrawn
      · rintro pending ⟨⟩

theorem Retired.use {key : String} (fresh : Function.Injective random)
    (retired : Retired random key state) (call : Use) :
    Retired random key (state.use random call).1 ∧
      (state.use random call).2 ≠ some key := by
  obtain ⟨number, early, isKey⟩ := retired.drawn
  cases call with
  | keyFor seatIds =>
      rcases cases_keyFor random state seatIds with
        ⟨pending, current, _, used⟩ | ⟨_, used⟩
      · rw [used]
        refine ⟨retired, ?_⟩
        intro same
        exact retired.absent pending current (Option.some.inj same)
      · have later : random state.drawn ≠ key := by
          rw [isKey]
          intro same
          exact absurd (fresh same) (Nat.ne_of_gt early)
        rw [used]
        refine ⟨⟨⟨number, Nat.lt_succ_of_lt early, isKey⟩, ?_⟩, ?_⟩
        · rintro pending ⟨⟩
          exact later
        · intro same
          exact later (Option.some.inj same)
  | settle error =>
      rw [use_settle]
      refine ⟨?_, Option.some_ne_none key ∘ Eq.symm⟩
      split
      · exact retired
      · exact ⟨retired.drawn, fun pending impossible => nomatch impossible⟩

theorem use_of_retries
    {call : Use} (current : state.keeper.current = some pending)
    (retries : call.Retries pending.seats) :
    (state.use random call).1 = state := by
  cases call with
  | keyFor seatIds => rw [use_keyFor_pending current retries]
  | settle error =>
      have unknown : unknownOutcome error = true := retries
      rw [use_settle, if_pos unknown]

/-- Anything else retires the pending key. -/
theorem retired_of_not_retries {call : Use} (fresh : Function.Injective random)
    (isDrawn : Drawn random state)
    (current : state.keeper.current = some pending)
    (other : ¬ call.Retries pending.seats) :
    Retired random pending.key (state.use random call).1 := by
  obtain ⟨number, early, isKey⟩ := isDrawn pending current
  cases call with
  | keyFor seatIds =>
      have differs :
          ∀ found, state.keeper.current = some found →
            KeyKeeper.sortedSeats seatIds ≠ found.seats := by
        intro found isFound
        cases current.symm.trans isFound
        exact other
      rw [use_keyFor_new differs]
      refine ⟨⟨number, Nat.lt_succ_of_lt early, isKey⟩, ?_⟩
      rintro found ⟨⟩ same
      rw [isKey] at same
      exact absurd (fresh same) (Nat.ne_of_gt early)
  | settle error =>
      have known : ¬ unknownOutcome error = true := other
      rw [use_settle, if_neg known]
      exact ⟨⟨number, early, isKey⟩, fun found impossible => nomatch impossible⟩

theorem current_of_keyFor
    (random : Nat → String) (state : Drawing) (seatIds : List String) :
    ∃ pending,
      (state.use random (.keyFor seatIds)).1.keeper.current = some pending ∧
        pending.seats = KeyKeeper.sortedSeats seatIds ∧
        (state.use random (.keyFor seatIds)).2 = some pending.key := by
  rcases cases_keyFor random state seatIds with
    ⟨pending, current, same, used⟩ | ⟨_, used⟩
  · rw [used]
    exact ⟨pending, current, same.symm, rfl⟩
  · rw [used]
    exact ⟨_, rfl, rfl, rfl⟩

end Use

section History

variable {random : Nat → String} {uses : List Use} {number : Nat}

theorem before_succ {call : Use} (isCall : uses[number]? = some call) :
    Drawing.before random uses (number + 1) =
      ((Drawing.before random uses number).use random call).1 := by
  unfold Drawing.before
  rw [List.take_add_one, isCall, Option.toList_some, List.foldl_append]
  rfl

theorem drawn_before (random : Nat → String) (uses : List Use) (number : Nat) :
    Drawn random (Drawing.before random uses number) := by
  induction number with
  | zero => rintro pending ⟨⟩
  | succ number ih =>
      cases isCall : uses[number]? with
      | none =>
          have short := List.getElem?_eq_none_iff.mp isCall
          have same :
              Drawing.before random uses (number + 1) =
                Drawing.before random uses number := by
            unfold Drawing.before
            rw [List.take_of_length_le short,
              List.take_of_length_le (Nat.le_succ_of_le short)]
          rw [same]
          exact ih
      | some call =>
          rw [before_succ isCall]
          exact drawn_use ih call

/-- After a call that returned a pending key, it is still pending if all
calls since then were retries, and retired if one of them was not. -/
theorem pending_or_retired (fresh : Function.Injective random)
    {first last : Nat} {pending : Pending} (within : last ≤ uses.length)
    (current :
      (Drawing.before random uses (first + 1)).keeper.current = some pending)
    (later : first + 1 ≤ last) :
    ((∀ (between : Nat) (call : Use), first < between → between < last →
          uses[between]? = some call → call.Retries pending.seats) ∧
        (Drawing.before random uses last).keeper.current = some pending) ∨
      (∃ (between : Nat) (call : Use), first < between ∧ between < last ∧
          uses[between]? = some call ∧ ¬ call.Retries pending.seats) ∧
        Retired random pending.key (Drawing.before random uses last) := by
  induction last, later using Nat.le_induction with
  | base =>
      refine Or.inl ⟨?_, current⟩
      intro between call above below
      omega
  | succ last later ih =>
      have isCall := List.getElem?_eq_getElem within
      have soFar := ih (Nat.le_of_succ_le within)
      rw [before_succ isCall]
      rcases soFar with ⟨retried, held⟩ | ⟨⟨between, call, facts⟩, retired⟩
      · by_cases retries : (uses[last]).Retries pending.seats
        · refine Or.inl ⟨?_, ?_⟩
          · intro between call above below found
            rcases Nat.lt_succ_iff_lt_or_eq.mp below with early | rfl
            · exact retried between call above early found
            · cases isCall.symm.trans found
              exact retries
          · rw [use_of_retries held retries]
            exact held
        · refine Or.inr
            ⟨⟨last, uses[last], later, Nat.lt_succ_self last, isCall,
                retries⟩, ?_⟩
          exact
            retired_of_not_retries fresh (drawn_before random uses last) held
              retries
      · obtain ⟨above, below, found, other⟩ := facts
        exact Or.inr
          ⟨⟨between, call, above, Nat.lt_succ_of_lt below, found, other⟩,
            (retired.use fresh _).1⟩

theorem current_of_keyAt {seatIds : List String}
    (isCall : uses[number]? = some (.keyFor seatIds)) :
    ∃ pending,
      (Drawing.before random uses (number + 1)).keeper.current =
          some pending ∧
        pending.seats = KeyKeeper.sortedSeats seatIds ∧
        Drawing.keyAt random uses number = some pending.key := by
  rw [before_succ isCall, Drawing.keyAt, isCall, Option.bind_some]
  exact current_of_keyFor random (Drawing.before random uses number) seatIds

/-- All calls after `first` up to `last` are retries for these seats. -/
def RetriesOnly (uses : List Use) (seats : String) (first last : Nat) : Prop :=
  ∀ (between : Nat) (call : Use), first < between → between ≤ last →
    uses[between]? = some call → call.Retries seats

theorem retriesOnly_iff {first last : Nat} {firstSeats lastSeats : List String}
    (ids : ∀ seatIds, .keyFor seatIds ∈ uses → Joinable seatIds)
    (isFirst : uses[first]? = some (.keyFor firstSeats))
    (isLast : uses[last]? = some (.keyFor lastSeats)) :
    RetriesOnly uses (KeyKeeper.sortedSeats firstSeats) first last ↔
      (∀ between seatIds, first < between → between ≤ last →
          uses[between]? = some (.keyFor seatIds) → seatIds.Perm firstSeats) ∧
        ∀ between error, first < between → between < last →
          uses[between]? = some (.settle error) →
            ∃ err, error = some (.api err) ∧
              (err.status = 0 ∨ err.status = 504) := by
  have joinable :
      ∀ {place : Nat} {seatIds : List String},
        uses[place]? = some (.keyFor seatIds) → Joinable seatIds :=
    fun found => ids _ (List.mem_of_getElem? found)
  constructor
  · intro only
    constructor
    · intro between seatIds above below found
      exact (sortedSeats_eq_iff (joinable found) (joinable isFirst)).mp
        (only between _ above below found)
    · intro between error above below found
      exact (unknownOutcome_iff error).mp
        (only between _ above (Nat.le_of_lt below) found)
  · rintro ⟨permutations, unknown⟩ between call above below found
    cases call with
    | keyFor seatIds =>
        exact (sortedSeats_eq_iff (joinable found) (joinable isFirst)).mpr
          (permutations between seatIds above below found)
    | settle error =>
        rcases Nat.lt_or_eq_of_le below with early | rfl
        · exact (unknownOutcome_iff error).mpr
            (unknown between error above early found)
        · rw [isLast] at found
          cases found

end History

/-- A key is returned again for retries of its purchase and for nothing
else. -/
theorem keys_are_reused_for_retries_alone {random : Nat → String}
    (fresh : Function.Injective random) {uses : List Use}
    (ids : ∀ seatIds, .keyFor seatIds ∈ uses → Joinable seatIds)
    {first last : Nat} (order : first < last)
    {firstSeats lastSeats : List String}
    (isFirst : uses[first]? = some (.keyFor firstSeats))
    (isLast : uses[last]? = some (.keyFor lastSeats)) :
    ∃ key again,
      Drawing.keyAt random uses first = some key ∧
        Drawing.keyAt random uses last = some again ∧
        (key = again ↔
          (∀ between seatIds, first < between → between ≤ last →
              uses[between]? = some (.keyFor seatIds) →
                seatIds.Perm firstSeats) ∧
            ∀ between error, first < between → between < last →
              uses[between]? = some (.settle error) →
                ∃ err, error = some (.api err) ∧
                  (err.status = 0 ∨ err.status = 504)) ∧
        ∀ between, first < between → between ≤ last →
          (∀ pending,
            (Drawing.before random uses between).keeper.current =
                some pending →
              pending.key ≠ key) →
            again ≠ key := by
  obtain ⟨pending, current, isSeats, isKey⟩ := current_of_keyAt isFirst
  obtain ⟨latest, latestCurrent, _, isAgain⟩ := current_of_keyAt isLast
  have within : last + 1 ≤ uses.length :=
    (List.getElem?_eq_some_iff.mp isLast).1
  have reused :
      pending.key = latest.key ↔ RetriesOnly uses pending.seats first last := by
    rcases
      pending_or_retired fresh within current
        (Nat.succ_le_succ (Nat.le_of_lt order)) with
      ⟨retried, held⟩ | ⟨⟨between, call, above, below, found, other⟩, retired⟩
    · cases latestCurrent.symm.trans held
      refine ⟨fun _ => ?_, fun _ => rfl⟩
      intro between call above below found
      exact retried between call above (Nat.lt_succ_of_le below) found
    · constructor
      · intro same
        exact absurd same.symm (retired.absent latest latestCurrent)
      · intro only
        exact absurd (only between call above (Nat.le_of_lt_succ below) found)
          other
  refine ⟨pending.key, latest.key, isKey, isAgain, ?_, ?_⟩
  · rw [reused, isSeats]
    exact retriesOnly_iff ids isFirst isLast
  · intro between above below absent same
    have only := reused.mp same.symm
    rcases
      pending_or_retired fresh (Nat.le_trans below (Nat.le_of_succ_le within))
        current above with
      ⟨_, held⟩ | ⟨⟨place, call, placeAbove, placeBelow, found, other⟩, _⟩
    · exact absent pending held rfl
    · exact other
        (only place call placeAbove
          (Nat.le_of_lt (Nat.lt_of_lt_of_le placeBelow below)) found)

-- A dropped connection between two presses of Buy, with the seats in the other
-- order.
private def twoPresses : List Use :=
  [.keyFor ["s1", "s2"], .settle (some (.api Web.networkError)),
    .keyFor ["s2", "s1"]]

theorem keys_are_reused_for_retries_after_a_lost_connection :
    ∃ key,
      Drawing.keyAt toString twoPresses 0 = some key ∧
        Drawing.keyAt toString twoPresses 2 = some key := by
  have ids :
      ∀ seatIds, .keyFor seatIds ∈ twoPresses → Joinable seatIds := by
    intro seatIds member
    simp only [twoPresses, List.mem_cons, Use.keyFor.injEq, reduceCtorEq,
      List.not_mem_nil, or_false, false_or] at member
    rcases member with rfl | rfl <;> unfold Joinable <;> decide
  obtain ⟨key, again, isKey, isAgain, reused, _⟩ :=
    keys_are_reused_for_retries_alone toString_injective ids
      (by decide : 0 < 2) rfl rfl
  have same : key = again := by
    apply reused.mpr
    constructor
    · intro between seatIds above below found
      have isOneOrTwo : between = 1 ∨ between = 2 := by omega
      rcases isOneOrTwo with rfl | rfl
      · cases found
      · cases found
        decide
    · intro between error above below found
      have isOne : between = 1 := by omega
      subst isOne
      cases found
      exact ⟨Web.networkError, rfl, Or.inl rfl⟩
  rw [← same] at isAgain
  exact ⟨key, isKey, isAgain⟩

end TicketWave.Checkout
