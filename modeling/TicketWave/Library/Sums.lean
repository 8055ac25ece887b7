import Mathlib.Algebra.BigOperators.Group.List.Basic

/-! # Sums over tables -/

namespace TicketWave.Library

universe u v w

variable {Row : Type u} {Key : Type v} {Value : Type w}
  [DecidableEq Key] [AddCommMonoid Value]

theorem sum_single_key {keys : List Key} {wanted : Key} (value : Value)
    (distinct : keys.Nodup) (member : wanted ∈ keys) :
    (keys.map fun key => if wanted = key then value else 0).sum = value := by
  induction keys with
  | nil => cases member
  | cons head tail ih =>
      obtain ⟨absent, tailDistinct⟩ := List.nodup_cons.mp distinct
      rw [List.map_cons, List.sum_cons]
      by_cases isHead : wanted = head
      · have zeros :
            tail.map (fun key => if wanted = key then value else 0) =
              tail.map fun _ => 0 := by
          apply List.map_congr_left
          intro key stored
          apply if_neg
          intro same
          rw [← isHead, same] at absent
          exact absent stored
        rw [if_pos isHead, zeros]
        simp
      · have later : wanted ∈ tail :=
          (List.mem_cons.mp member).resolve_left isHead
        rw [if_neg isHead, zero_add]
        exact ih tailDistinct later

theorem sum_by_key {key : Row → Key} {rows : List Row} {keys : List Key}
    (value : Row → Value) (distinct : keys.Nodup)
    (known : ∀ row ∈ rows, key row ∈ keys) :
    (rows.map value).sum =
      (keys.map fun wanted =>
        ((rows.filter fun row => decide (key row = wanted)).map
          value).sum).sum := by
  induction rows with
  | nil => simp
  | cons head tail ih =>
      have tailKnown : ∀ row ∈ tail, key row ∈ keys :=
        fun row member => known row (List.mem_cons_of_mem head member)
      have split :
          ∀ wanted,
            (((head :: tail).filter fun row =>
                decide (key row = wanted)).map value).sum =
              (if key head = wanted then value head else 0) +
                ((tail.filter fun row => decide (key row = wanted)).map
                  value).sum := by
        intro wanted
        by_cases same : key head = wanted
        · simp [same]
        · simp [same]
      rw [List.map_cons, List.sum_cons, ih tailKnown]
      simp only [split]
      rw [List.sum_map_add,
        sum_single_key (value head) distinct (known head List.mem_cons_self)]

end TicketWave.Library
