import Mathlib.Data.List.Infix
import Mathlib.Data.String.Basic

/-!
# Texts

Texts in texts, decimal numbers, and parts joined with a separator.
-/

namespace TicketWave.Library

def Contains (text part : String) : Prop :=
  part.toList <:+: text.toList

instance (text part : String) : Decidable (Contains text part) :=
  inferInstanceAs (Decidable (part.toList <:+: text.toList))

theorem not_contains_of_char {text part : String} {char : Char}
    (needed : char ∈ part.toList) (absent : char ∉ text.toList) :
    ¬ Contains text part :=
  fun contained => absent (contained.subset needed)

theorem char_mem_append {left right : String} {char : Char} :
    char ∈ (left ++ right).toList ↔
      char ∈ left.toList ∨ char ∈ right.toList := by
  rw [String.toList_append, List.mem_append]

/-- A number in decimal digits, without a sign. -/
def readDecimal (text : String) : Option Nat :=
  if text ≠ "" ∧ text.toList.all Char.isDigit then
    some (Nat.ofDigitChars 10 text.toList 0)
  else
    none

theorem readDecimal_toString (number : Nat) :
    readDecimal (toString number) = some number := by
  have written : (toString number).toList = Nat.toDigits 10 number := by
    rw [Nat.toString_eq_ofList_toDigits, String.toList_ofList]
  have nonempty : toString number ≠ "" := by
    intro empty
    rw [empty] at written
    exact Nat.toDigits_ne_nil written.symm
  have digits : (toString number).toList.all Char.isDigit = true := by
    rw [written, List.all_eq_true]
    intro digit member
    exact Nat.isDigit_of_mem_toDigits (by decide) (by decide) member
  rw [readDecimal, if_pos ⟨nonempty, digits⟩, written,
    Nat.ofDigitChars_ten_toDigits]

/-- `strconv.Itoa` and `%d` -/
theorem toString_injective : Function.Injective (toString : Nat → String) := by
  intro left right same
  have read := readDecimal_toString left
  rw [same, readDecimal_toString] at read
  exact (Option.some.inj read).symm

section Join

variable {separator : Char}

/-- A part that is neither empty nor hides a separator. -/
def Part (separator : Char) (text : String) : Prop :=
  text ≠ "" ∧ separator ∉ text.toList

theorem splitOn_intercalate_parts {texts : List String} (some : texts ≠ [])
    (parts : ∀ text ∈ texts, Part separator text) :
    (String.intercalate (String.singleton separator) texts).toList.splitOn
        separator =
      texts.map String.toList := by
  rw [String.toList_intercalate, String.toList_singleton]
  apply List.splitOn_intercalate
  · intro chars member
    obtain ⟨text, isText, rfl⟩ := List.mem_map.mp member
    exact (parts text isText).2
  · intro empty
    exact some (List.map_eq_nil_iff.mp empty)

theorem intercalate_ne_empty {texts : List String} (some : texts ≠ [])
    (parts : ∀ text ∈ texts, Part separator text) :
    String.intercalate (String.singleton separator) texts ≠ "" := by
  intro empty
  have split := splitOn_intercalate_parts some parts
  rw [empty] at split
  cases texts with
  | nil => exact some rfl
  | cons text rest =>
      have isFirst : text.toList = [] := by
        have firsts := congrArg List.head? split
        simpa using firsts.symm
      exact (parts text List.mem_cons_self).1 (String.toList_eq_nil_iff.mp isFirst)

theorem intercalate_inj {left right : List String}
    (leftParts : ∀ text ∈ left, Part separator text)
    (rightParts : ∀ text ∈ right, Part separator text) :
    String.intercalate (String.singleton separator) left =
        String.intercalate (String.singleton separator) right ↔
      left = right := by
  constructor
  · intro joined
    by_cases leftEmpty : left = []
    · subst leftEmpty
      rw [String.intercalate_nil] at joined
      by_contra differs
      exact intercalate_ne_empty (Ne.symm differs) rightParts joined.symm
    · by_cases rightEmpty : right = []
      · subst rightEmpty
        rw [String.intercalate_nil] at joined
        exact absurd joined (intercalate_ne_empty leftEmpty leftParts)
      · have leftSplit := splitOn_intercalate_parts leftEmpty leftParts
        have rightSplit := splitOn_intercalate_parts rightEmpty rightParts
        rw [joined, rightSplit] at leftSplit
        have injective : Function.Injective String.toList :=
          fun _ _ same => String.toList_inj.mp same
        exact (List.map_injective_iff.mpr injective leftSplit).symm
  · intro same
    rw [same]

end Join

end TicketWave.Library
