import Mathlib.Algebra.Order.Group.Unbundled.Int
import Mathlib.Data.Int.Order.Basic
import Mathlib.Tactic.IntervalCases

/-!
# Numbers of 64 bits

Signed integers that wrap around, and the double nearest to an integer.
-/

namespace TicketWave.Library

def maxInt64 : Int := 9223372036854775807

/-- The value of an `int64` expression. -/
def int64 (value : Int) : Int :=
  Int.bmod value 18446744073709551616

theorem int64_of_range {value : Int} (least : -maxInt64 - 1 ≤ value)
    (most : value ≤ maxInt64) : int64 value = value := by
  unfold maxInt64 at least most
  unfold int64
  apply Int.bmod_eq_of_le <;> omega

/-- The distance of the doubles around an integer. -/
def spacing (value : Int) : Nat :=
  2 ^ (value.natAbs.log2 - 52)

def nearest (value : Int) : Int :=
  let quotient := value / spacing value
  let rest := value % spacing value
  spacing value *
    if 2 * rest < spacing value then quotient
    else if spacing value < 2 * rest then quotient + 1
    else quotient + quotient % 2

/-- The conversion as the processors of the x86-64 family do it: what is out
of range becomes the least integer. -/
def truncated (double : Int) : Int :=
  if -9223372036854775808 ≤ double ∧ double < 9223372036854775808 then double
  else -9223372036854775808

/-- An integer that has been a double on its way. -/
def viaDouble (value : Int) : Int :=
  truncated (nearest value)

/-- From here on all integers of 64 bits round to `2 ^ 63`. -/
def roundsOut : Int := 9223372036854775296

variable {value : Int}

theorem nearest_of_small (small : value.natAbs ≤ 9007199254740992) :
    nearest value = value := by
  by_cases isLast : value.natAbs = 9007199254740992
  · obtain rfl | rfl : value = 9007199254740992 ∨ value = -9007199254740992 := by
      omega
    · decide +kernel
    · decide +kernel
  · have isDense : spacing value = 1 := by
      by_cases isZero : value.natAbs = 0
      · rw [spacing, isZero]
        rfl
      · have short : value.natAbs.log2 < 53 :=
          (Nat.log2_lt isZero).mpr (by omega)
        rw [spacing, Nat.sub_eq_zero_of_le (by omega), Nat.pow_zero]
    simp [nearest, isDense]

/-- Far from zero an integer stays far from it, on its side. -/
theorem nearest_of_large (large : 9007199254740992 ≤ value.natAbs) :
    (0 ≤ value → 9007199254740992 ≤ nearest value) ∧
      (value < 0 → nearest value < 0) := by
  have isNot : value.natAbs ≠ 0 := by omega
  have long : 53 ≤ value.natAbs.log2 := (Nat.le_log2 isNot).mpr large
  have below : 2 ^ value.natAbs.log2 ≤ value.natAbs := Nat.log2_self_le isNot
  have split : value.natAbs.log2 = 52 + (value.natAbs.log2 - 52) := by omega
  have atLeastTwo : 2 ≤ spacing value := Nat.le_self_pow (by omega) 2
  rw [split, Nat.pow_add] at below
  change 2 ^ 52 * spacing value ≤ value.natAbs at below
  unfold nearest
  generalize spacing value = unit at *
  have positive : (0 : Int) < unit := by omega
  have parity := Int.emod_two_eq_zero_or_one (value / unit)
  constructor
  · intro nonnegative
    have far : 4503599627370496 ≤ value / (unit : Int) :=
      Int.le_ediv_of_mul_le positive (by omega)
    have apart : (2 : Int) * 4503599627370496 ≤ unit * 4503599627370496 := by
      omega
    refine le_trans apart (Int.mul_le_mul_of_nonneg_left ?_ positive.le)
    split_ifs <;> omega
  · intro negative
    have far : value / (unit : Int) < -1 :=
      Int.ediv_lt_of_lt_mul positive (by omega)
    apply Int.mul_neg_of_pos_of_neg positive
    split_ifs <;> omega

theorem nearest_neg_iff : nearest value < 0 ↔ value < 0 := by
  by_cases small : value.natAbs ≤ 9007199254740992
  · rw [nearest_of_small small]
  · have large : 9007199254740992 ≤ value.natAbs := by omega
    obtain ⟨above, below⟩ := nearest_of_large large
    refine ⟨fun negative => ?_, below⟩
    by_contra nonnegative
    have := above (by omega)
    omega

theorem nearest_eq_one_iff : nearest value = 1 ↔ value = 1 := by
  by_cases small : value.natAbs ≤ 9007199254740992
  · rw [nearest_of_small small]
  · have large : 9007199254740992 ≤ value.natAbs := by omega
    obtain ⟨above, below⟩ := nearest_of_large large
    omega

theorem nearest_bounds
    (least : 9007199254740992 ≤ value) (most : value < 9223372036854775808) :
    9007199254740992 ≤ nearest value ∧
      (value < roundsOut → nearest value < 9223372036854775808) ∧
      (roundsOut ≤ value → nearest value = 9223372036854775808) := by
  have isNot : value.natAbs ≠ 0 := by omega
  have long : 53 ≤ value.natAbs.log2 := (Nat.le_log2 isNot).mpr (by omega)
  have short : value.natAbs.log2 < 63 := (Nat.log2_lt isNot).mpr (by omega)
  have below : 2 ^ value.natAbs.log2 ≤ value.natAbs := Nat.log2_self_le isNot
  have above : value.natAbs < 2 ^ (value.natAbs.log2 + 1) := Nat.lt_log2_self
  unfold nearest spacing roundsOut
  generalize value.natAbs.log2 = digits at *
  interval_cases digits <;> norm_num at below above ⊢ <;> omega

theorem viaDouble_of_small (small : value.natAbs ≤ 9007199254740992) :
    viaDouble value = value := by
  rw [viaDouble, nearest_of_small small, truncated, if_pos (by omega)]

theorem viaDouble_one : viaDouble 1 = 1 :=
  viaDouble_of_small (by decide)

theorem viaDouble_lt (value : Int) : viaDouble value < 9223372036854775808 := by
  unfold viaDouble truncated
  split <;> omega

theorem le_viaDouble (least : 9007199254740992 ≤ value)
    (most : value < roundsOut) : 9007199254740992 ≤ viaDouble value := by
  obtain ⟨above, below, _⟩ :=
    nearest_bounds least (by unfold roundsOut at most; omega)
  rw [viaDouble, truncated, if_pos ⟨by omega, below most⟩]
  exact above

theorem viaDouble_of_roundsOut
    (least : roundsOut ≤ value) (most : value < 9223372036854775808) :
    viaDouble value = -9223372036854775808 := by
  obtain ⟨_, _, isOut⟩ :=
    nearest_bounds (by unfold roundsOut at least; omega) most
  rw [viaDouble, isOut least]
  rfl

end TicketWave.Library
