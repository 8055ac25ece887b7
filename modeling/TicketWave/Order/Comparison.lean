import TicketWave.Library.Heap
import TicketWave.Order.Replay

/-!
# Comparing requests without touching them

`sameRequest` on slices of arrays in memory, which may share an array.
-/

namespace TicketWave.Order

open Library

inductive Slice where
  /-- without cells, as `nil` is -/
  | empty
  | cells (array start length : Nat)
  deriving DecidableEq, Repr

/-- The array behind a slice. -/
def Slice.array : Slice → Option Nat
  | .empty => none
  | .cells array _ _ => some array

/-- The arrays, under their addresses. -/
abbrev Memory := Registry (List String)

namespace Memory

variable (memory : Memory)

def read : Slice → Option (List String)
  | .empty => some []
  | .cells array start length =>
      match memory.get array with
      | none => none
      | some contents =>
          if start + length ≤ contents.length then
            some ((contents.drop start).take length)
          else
            none

/-- `slices.Clone` -/
def clone (slice : Slice) : Option (Memory × Slice) :=
  (memory.read slice).map fun texts =>
    if texts = [] then (memory, .empty)
    else (memory.launch texts, .cells memory.next 0 texts.length)

/-- The contents with `texts` written to the cells from `start` on. -/
def written (contents : List String) (start : Nat) (texts : List String) :
    List String :=
  contents.take start ++ texts ++ contents.drop (start + texts.length)

/-- `slices.Sort` -/
def sort : Slice → Option Memory
  | .empty => some memory
  | .cells array start length =>
      match memory.get array with
      | none => none
      | some contents =>
          if start + length ≤ contents.length then
            some
              (memory.put array
                (written contents start
                  (((contents.drop start).take length).insertionSort (· ≤ ·))))
          else
            none

/-- `slices.Equal` -/
def equal (left right : Slice) : Option Bool :=
  match memory.read left, memory.read right with
  | some leftTexts, some rightTexts => some (leftTexts == rightTexts)
  | _, _ => none

end Memory

/-- What `sameRequest` looks at, of an order and of a request. -/
structure Purchase where
  eventId : String
  amountCents : Int
  seatIds : Slice
  deriving DecidableEq, Repr

def sameRequestIn (memory : Memory) (stored req : Purchase) :
    Option (Memory × Bool) :=
  if stored.eventId ≠ req.eventId ∨ stored.amountCents ≠ req.amountCents then
    some (memory, false)
  else do
    let (memory, a) ← memory.clone stored.seatIds
    let (memory, b) ← memory.clone req.seatIds
    let memory ← memory.sort a
    let memory ← memory.sort b
    let same ← memory.equal a b
    some (memory, same)

section Memory

variable {memory after : Memory} {slice : Slice} {texts : List String}

theorem read_congr
    (same :
      ∀ array, slice.array = some array → after.get array = memory.get array) :
    after.read slice = memory.read slice := by
  cases slice with
  | empty => rfl
  | cells array start length => simp only [Memory.read, same array rfl]

theorem get_of_read (read : memory.read slice = some texts) {array : Nat}
    (isArray : slice.array = some array) :
    ∃ contents, memory.get array = some contents := by
  cases slice with
  | empty => cases isArray
  | cells array start length =>
      cases isArray
      simp only [Memory.read] at read
      cases found : memory.get array with
      | none =>
          rw [found] at read
          cases read
      | some contents => exact ⟨contents, rfl⟩

theorem Memory.read_of_keeps
    (kept : memory.Keeps after) (read : memory.read slice = some texts) :
    after.read slice = some texts := by
  rw [← read]
  apply read_congr
  intro array isArray
  obtain ⟨contents, found⟩ := get_of_read read isArray
  rw [found, kept array contents found]

theorem clone_spec (read : memory.read slice = some texts) :
    ∃ after copy, memory.clone slice = some (after, copy) ∧
      memory.Keeps after ∧ after.read copy = some texts ∧
      ∀ array, copy.array = some array → memory.get array = none := by
  by_cases nothing : texts = []
  · refine ⟨memory, .empty, ?_, Registry.Keeps.refl memory, ?_, ?_⟩
    · rw [Memory.clone, read, Option.map_some, if_pos nothing]
    · rw [nothing]
      rfl
    · exact nofun
  · refine ⟨memory.launch texts, .cells memory.next 0 texts.length, ?_,
      (Registry.Keeps.refl memory).launch texts, ?_, ?_⟩
    · rw [Memory.clone, read, Option.map_some, if_neg nothing]
    · simp [Memory.read, Registry.get_launch_self]
    · intro array isArray
      cases isArray
      cases found : memory.get memory.next with
      | none => rfl
      | some contents =>
          exact absurd (Registry.lt_next_of_get found) (Nat.lt_irrefl _)

theorem Memory.length_le_written {contents : List String} {start : Nat}
    (inside : start + texts.length ≤ contents.length) :
    start + texts.length ≤ (Memory.written contents start texts).length := by
  have front : (contents.take start).length = start := by
    rw [List.length_take]
    omega
  rw [Memory.written, List.length_append, List.length_append, front]
  exact Nat.le_add_right _ _

theorem Memory.window_written {contents : List String} {start : Nat}
    (inside : start + texts.length ≤ contents.length) :
    ((Memory.written contents start texts).drop start).take texts.length =
      texts := by
  have front : (contents.take start).length = start := by
    rw [List.length_take]
    omega
  rw [Memory.written, List.append_assoc, List.drop_left' front,
    List.take_left' rfl]

/-- Only the cells of the slice are written to. -/
theorem sort_spec (read : memory.read slice = some texts) :
    ∃ after, memory.sort slice = some after ∧
      after.read slice = some (texts.insertionSort (· ≤ ·)) ∧
      ∀ array, slice.array ≠ some array →
        after.get array = memory.get array := by
  cases slice with
  | empty =>
      cases read
      exact ⟨memory, rfl, rfl, fun _ _ => rfl⟩
  | cells array start length =>
      simp only [Memory.read] at read
      cases found : memory.get array with
      | none =>
          rw [found] at read
          cases read
      | some contents =>
          simp only [found] at read
          split at read
          · rename_i inside
            cases read
            generalize isSorted :
                ((contents.drop start).take length).insertionSort
                  (· ≤ ·) = sorted
            have fits : sorted.length = length := by
              rw [← isSorted, List.length_insertionSort, List.length_take,
                List.length_drop]
              omega
            rw [← fits] at inside
            refine ⟨memory.put array (Memory.written contents start sorted), ?_,
              ?_, ?_⟩
            · simp only [Memory.sort, found, isSorted]
              rw [if_pos (fits ▸ inside)]
            · simp only [Memory.read, Registry.get_put_self found]
              rw [← fits, if_pos (Memory.length_le_written inside),
                Memory.window_written inside]
            · intro other different
              apply Registry.get_put_of_ne
              rintro rfl
              exact different rfl
          · cases read

end Memory

section Compare

variable {memory : Memory} {left right : Slice}
  {leftSeats rightSeats : List String}

/-- The second half of `sameRequest`: neither sort disturbs the other clone,
and both leave alone what was there before. -/
theorem compare_spec (readLeft : memory.read left = some leftSeats)
    (readRight : memory.read right = some rightSeats) :
    ∃ first a second b third after,
      memory.clone left = some (first, a) ∧
        Memory.clone first right = some (second, b) ∧
        Memory.sort second a = some third ∧
        Memory.sort third b = some after ∧
        Memory.equal after a b =
          some
            (leftSeats.insertionSort (· ≤ ·) ==
              rightSeats.insertionSort (· ≤ ·)) ∧
        memory.Keeps after := by
  obtain ⟨first, a, cloneLeft, keptFirst, readA, ownA⟩ := clone_spec readLeft
  obtain ⟨second, b, cloneRight, keptSecond, readB, ownB⟩ :=
    clone_spec (Memory.read_of_keeps keptFirst readRight)
  have apart : ∀ array, a.array = some array → b.array ≠ some array := by
    intro array isA isB
    obtain ⟨contents, found⟩ := get_of_read readA isA
    rw [ownB array isB] at found
    cases found
  obtain ⟨third, sortLeft, sortedA, frameA⟩ :=
    sort_spec (Memory.read_of_keeps keptSecond readA)
  have stillB : Memory.read third b = some rightSeats := by
    rw [← readB]
    apply read_congr
    intro array isB
    exact frameA array fun isA => apart array isA isB
  obtain ⟨after, sortRight, sortedB, frameB⟩ := sort_spec stillB
  have stillA :
      Memory.read after a = some (leftSeats.insertionSort (· ≤ ·)) := by
    rw [← sortedA]
    apply read_congr
    intro array isA
    exact frameB array (apart array isA)
  refine ⟨first, a, second, b, third, after, cloneLeft, cloneRight, sortLeft,
    sortRight, ?_, ?_⟩
  · simp only [Memory.equal, stillA, sortedB]
  · intro array contents found
    have notA : a.array ≠ some array := by
      intro isA
      rw [ownA array isA] at found
      cases found
    have inFirst := keptFirst array contents found
    have notB : b.array ≠ some array := by
      intro isB
      rw [ownB array isB] at inFirst
      cases inFirst
    rw [frameB array notB, frameA array notA]
    exact keptSecond array contents inFirst

end Compare

/-- A request is recognised as the stored purchase when it names the same
event and amount and the same seats, each as often; the comparison reads both
seat lists and writes to neither. -/
theorem same_request_is_the_same_purchase (stored : StoredOrder)
    (req : CreateOrderRequest) {memory : Memory} {left right : Slice}
    (readLeft : memory.read left = some stored.seatIds)
    (readRight : memory.read right = some req.seatIds) :
    (sameRequest stored req = true ↔
      stored.eventId = req.eventId ∧
        stored.amountCents = req.amountCents ∧
        stored.seatIds.Perm req.seatIds) ∧
    ∃ after,
      sameRequestIn memory ⟨stored.eventId, stored.amountCents, left⟩
          ⟨req.eventId, req.amountCents, right⟩ =
        some (after, sameRequest stored req) ∧
      memory.Keeps after ∧
      Memory.read after left = some stored.seatIds ∧
      Memory.read after right = some req.seatIds := by
  refine ⟨sameRequest_iff, ?_⟩
  by_cases differs :
      stored.eventId ≠ req.eventId ∨ stored.amountCents ≠ req.amountCents
  · refine ⟨memory, ?_, Registry.Keeps.refl memory, readLeft, readRight⟩
    rw [sameRequestIn, sameRequest, if_pos differs, if_pos differs]
  · obtain
      ⟨first, a, second, b, third, after, cloneLeft, cloneRight, sortLeft,
        sortRight, compared, kept⟩ := compare_spec readLeft readRight
    refine ⟨after, ?_, kept, Memory.read_of_keeps kept readLeft,
      Memory.read_of_keeps kept readRight⟩
    rw [sameRequestIn, sameRequest, if_neg differs, if_neg differs]
    simp only [cloneLeft, cloneRight, sortLeft, sortRight, compared,
      Option.bind_eq_bind, Option.bind_some]

-- Both lists are slices of one array, and one seat is in them twice.
private def sharedArray : Memory :=
  Registry.empty.launch ["s2", "s1", "s2", "s1", "s2"]

theorem same_request_is_the_same_purchase_in_one_array :
    ∃ after,
      sameRequestIn sharedArray ⟨"e", 500, .cells 0 0 3⟩
          ⟨"e", 500, .cells 0 2 3⟩ = some (after, true) ∧
        Memory.read after (.cells 0 0 3) = some ["s2", "s1", "s2"] ∧
        Memory.read after (.cells 0 2 3) = some ["s2", "s1", "s2"] := by
  obtain ⟨same, after, compared, _, left, right⟩ :=
    @same_request_is_the_same_purchase
      ⟨0, "e", ["s2", "s1", "s2"], 500, .confirmed, none⟩
      ⟨"u", "e", ["s2", "s1", "s2"], 500, ""⟩ sharedArray
      (.cells 0 0 3) (.cells 0 2 3) (by decide) (by decide)
  rw [same.mpr ⟨rfl, rfl, List.Perm.refl _⟩] at compared
  exact ⟨after, compared, left, right⟩

end TicketWave.Order
