import Mathlib.Data.List.Basic
import Mathlib.Data.List.Pairwise
import Mathlib.Algebra.Order.Group.Nat

/-!
# Windows in time

Windows that do not overlap, with so many marks in a first part of each.
-/

namespace TicketWave.Library

structure Window where
  start : Nat
  marks : List Nat

/-- The windows, newest first, do not overlap, and each of them has at most
`limit` marks, all in its first part. -/
structure Spaced (length part limit : Nat) (windows : List Window) : Prop where
  apart : windows.Pairwise fun newer older => older.start + length ≤ newer.start
  inside :
    ∀ window ∈ windows, ∀ mark ∈ window.marks,
      window.start ≤ mark ∧ mark < window.start + part
  few : ∀ window ∈ windows, window.marks.length ≤ limit

def marks (windows : List Window) : List Nat :=
  windows.flatMap Window.marks

variable {length part limit : Nat} {windows : List Window} {window : Window}
  {test : Nat → Bool}

theorem Spaced.tail (spaced : Spaced length part limit (window :: windows)) :
    Spaced length part limit windows where
  apart := (List.pairwise_cons.mp spaced.apart).2
  inside := fun other member =>
    spaced.inside other (List.mem_cons_of_mem window member)
  few := fun other member =>
    spaced.few other (List.mem_cons_of_mem window member)

theorem Spaced.nil : Spaced length part limit [] where
  apart := List.Pairwise.nil
  inside := fun _ member => absurd member List.not_mem_nil
  few := fun _ member => absurd member List.not_mem_nil

theorem Spaced.cons (spaced : Spaced length part limit windows)
    (ended : ∀ older ∈ windows, older.start + length ≤ window.start)
    (inside :
      ∀ mark ∈ window.marks, window.start ≤ mark ∧ mark < window.start + part)
    (few : window.marks.length ≤ limit) :
    Spaced length part limit (window :: windows) where
  apart := List.Pairwise.cons ended spaced.apart
  inside := List.forall_mem_cons.mpr ⟨inside, spaced.inside⟩
  few := List.forall_mem_cons.mpr ⟨few, spaced.few⟩

theorem Spaced.mark (spaced : Spaced length part limit (window :: windows))
    {mark : Nat} (inside : window.start ≤ mark ∧ mark < window.start + part)
    (room : window.marks.length < limit) :
    Spaced length part limit
      ({ window with marks := mark :: window.marks } :: windows) := by
  have old := spaced.inside window List.mem_cons_self
  exact spaced.tail.cons (List.pairwise_cons.mp spaced.apart).1
    (List.forall_mem_cons.mpr ⟨inside, old⟩) room

theorem countP_marks_cons :
    (marks (window :: windows)).countP test =
      window.marks.countP test + (marks windows).countP test := by
  rw [marks, List.flatMap_cons, List.countP_append]
  rfl

theorem Spaced.countP_head
    (spaced : Spaced length part limit (window :: windows)) :
    window.marks.countP test ≤ limit :=
  Nat.le_trans List.countP_le_length (spaced.few window List.mem_cons_self)

/-- The windows that are over when a later mark is made have at most one
window's worth of marks near it. -/
theorem Spaced.countP_before (spaced : Spaced length part limit windows)
    (narrow :
      ∀ left right, test left = true → test right = true →
        right + part ≤ left + 2 * length) {later : Nat}
    (isLater : test later = true)
    (ended : ∀ window ∈ windows, window.start + length ≤ later) :
    (marks windows).countP test ≤ limit := by
  induction windows with
  | nil => exact Nat.zero_le limit
  | cons window rest ih =>
      rw [countP_marks_cons]
      have overRest : ∀ older ∈ rest, older.start + length ≤ later :=
        fun older member => ended older (List.mem_cons_of_mem window member)
      by_cases met : ∃ mark ∈ window.marks, test mark = true
      · have none : (marks rest).countP test = 0 := by
          rw [List.countP_eq_zero]
          intro mark member tested
          obtain ⟨older, isOlder, inOlder⟩ := List.mem_flatMap.mp member
          have early :=
            (spaced.inside older (List.mem_cons_of_mem window isOlder) mark
              inOlder).2
          have before := (List.pairwise_cons.mp spaced.apart).1 older isOlder
          have isOver := ended window List.mem_cons_self
          have close := narrow mark later tested isLater
          omega
        rw [none, Nat.add_zero]
        exact spaced.countP_head
      · have none : window.marks.countP test = 0 :=
          List.countP_eq_zero.mpr fun mark member tested =>
            met ⟨mark, member, tested⟩
        rw [none, Nat.zero_add]
        exact ih spaced.tail overRest

/-- Near each other there are at most two windows' worth of marks. -/
theorem Spaced.countP_le_two_mul (spaced : Spaced length part limit windows)
    (narrow :
      ∀ left right, test left = true → test right = true →
        right + part ≤ left + 2 * length) :
    (marks windows).countP test ≤ 2 * limit := by
  induction windows with
  | nil => exact Nat.zero_le _
  | cons window rest ih =>
      rw [countP_marks_cons, Nat.two_mul]
      by_cases met : ∃ mark ∈ window.marks, test mark = true
      · obtain ⟨mark, member, tested⟩ := met
        have ended : ∀ older ∈ rest, older.start + length ≤ mark := by
          intro older isOlder
          exact
            Nat.le_trans ((List.pairwise_cons.mp spaced.apart).1 older isOlder)
              (spaced.inside window List.mem_cons_self mark member).1
        exact Nat.add_le_add spaced.countP_head
          (spaced.tail.countP_before narrow tested ended)
      · have none : window.marks.countP test = 0 :=
          List.countP_eq_zero.mpr fun mark member tested =>
            met ⟨mark, member, tested⟩
        have rest := ih spaced.tail
        omega

end TicketWave.Library
