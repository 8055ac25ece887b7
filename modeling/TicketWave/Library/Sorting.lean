import Mathlib.Data.List.Sort

/-! # Sorting -/

namespace TicketWave.Library

universe u

section NormalForm

variable {Item : Type u} {before : Item → Item → Prop} [DecidableRel before]
  [Std.Total before] [IsTrans Item before] [Std.Antisymm before]

theorem insertionSort_eq_iff_perm {left right : List Item} :
    left.insertionSort before = right.insertionSort before ↔
      left.Perm right := by
  have leftPerm := List.perm_insertionSort before left
  have rightPerm := List.perm_insertionSort before right
  constructor
  · intro equal
    rw [equal] at leftPerm
    exact leftPerm.symm.trans rightPerm
  · intro permutation
    exact List.Perm.eq_of_pairwise'
      (List.pairwise_insertionSort before left)
      (List.pairwise_insertionSort before right)
      (leftPerm.trans (permutation.trans rightPerm.symm))

end NormalForm

section First

variable {Item : Type u} {before : Item → Item → Bool}

theorem mem_take_iff_of_sorted {items : List Item} {item : Item} {count : Nat}
    (sorted : items.Pairwise fun left right => before left right = true)
    (distinct : items.Nodup) (itself : before item item = true)
    (antisymmetric :
      ∀ other ∈ items, before item other = true → before other item = true →
        other = item) (member : item ∈ items) :
    item ∈ items.take count ↔
      items.countP (fun other => before other item) ≤ count := by
  obtain ⟨front, back, rfl⟩ := List.append_of_mem member
  have notInFront : item ∉ front := by
    intro earlier
    exact (List.nodup_append.mp distinct).2.2 item earlier item
      List.mem_cons_self rfl
  have notInBack : item ∉ back :=
    (List.nodup_cons.mp (List.nodup_append.mp distinct).2.1).1
  have frontCount :
      front.countP (fun other => before other item) = front.length := by
    rw [List.countP_eq_length]
    intro other earlier
    exact (List.pairwise_append.mp sorted).2.2 other earlier item
      List.mem_cons_self
  have backCount : back.countP (fun other => before other item) = 0 := by
    rw [List.countP_eq_zero]
    intro other later isBefore
    have isAfter : before item other = true :=
      List.rel_of_pairwise_cons (List.pairwise_append.mp sorted).2.1 later
    have same : other = item :=
      antisymmetric other
        (List.mem_append_right front (List.mem_cons_of_mem item later))
        isAfter isBefore
    exact notInBack (same ▸ later)
  rw [List.countP_append, List.countP_cons, frontCount, backCount,
    if_pos itself, Nat.zero_add]
  constructor
  · intro taken
    by_contra short
    have inFront : count ≤ front.length := by omega
    rw [List.take_append_of_le_length inFront] at taken
    exact notInFront (List.mem_of_mem_take taken)
  · intro enough
    obtain ⟨more, rfl⟩ := Nat.exists_eq_add_of_le enough
    rw [Nat.add_assoc, List.take_length_add_append, Nat.add_comm 1 more,
      List.take_succ_cons]
    exact List.mem_append_right front List.mem_cons_self

/-- `ORDER BY` with `LIMIT`. -/
theorem mem_take_mergeSort_iff {items : List Item} {item : Item} {count : Nat}
    (transitive :
      ∀ first second third, before first second = true →
        before second third = true → before first third = true)
    (total : ∀ left right, (before left right || before right left) = true)
    (distinct : items.Nodup)
    (antisymmetric :
      ∀ other ∈ items, before item other = true → before other item = true →
        other = item) (member : item ∈ items) :
    item ∈ (items.mergeSort before).take count ↔
      items.countP (fun other => before other item) ≤ count := by
  have permutation := List.mergeSort_perm items before
  have itself : before item item = true := by
    simpa using total item item
  rw [← permutation.countP_eq]
  apply mem_take_iff_of_sorted
    (List.pairwise_mergeSort transitive total items)
    (permutation.nodup_iff.mpr distinct) itself
  · intro other isOther
    exact antisymmetric other (permutation.mem_iff.mp isOther)
  · exact permutation.mem_iff.mpr member

end First

end TicketWave.Library
