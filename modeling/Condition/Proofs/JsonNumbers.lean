import Condition.Json.Basic

/-! # The numbers of JSON values

An integer in a JSON value fits 64 bits, with or without a sign, and a double there is finite
(`Proper`). The double nearest to such a number is finite, so no number is lost when it becomes one.

* `Double.isFinite_ofInt`: the doubles of integers.
* `Json.Number.isFinite_toDouble`: the doubles of numbers. -/

namespace Condition

-- Powers are those of core, whatever other instances are in scope.
attribute [local instance (high)] instPowNat instNatPowNat Int.instNatPow

/-! ### The doubles of integers -/

namespace Double

theorem roundQuotient_le {num den bound : Nat} (h : num / den < bound) :
    roundQuotient num den ≤ bound := by
  simp only [roundQuotient]
  split
  · omega
  · split
    · omega
    · omega

theorem floorLog2_one {num : Nat} (h : num ≠ 0) : floorLog2 num 1 = num.log2 := by
  have hlow : 1 * 2 ^ num.log2 ≤ num := by
    rw [Nat.one_mul]
    exact Nat.log2_self_le h
  have hone : ((num.log2 : Int) - (Nat.log2 1 : Nat)) = num.log2 := by
    rw [show Nat.log2 1 = 0 by decide]
    omega
  simp only [floorLog2, hone, Int.toNat_natCast, Int.natCast_nonneg, if_true, if_pos hlow]

/-- **The magnitude of an integer** has its logarithm as its exponent. -/
theorem roundMagnitude_le {num : Nat} (h : num ≠ 0) :
    roundMagnitude num 1 ≤ (num.log2 + 1024) * 2 ^ (52 : Nat) := by
  have hhigh : num < 2 ^ (num.log2 + 1) := Nat.lt_log2_self
  have hq : max (-1074) ((num.log2 : Int) - 52) = (num.log2 : Int) - 52 := by omega
  simp only [roundMagnitude, if_neg h, floorLog2_one h, hq]
  -- the mantissa has 53 bits, or is the power behind them
  have hmantissa : (if 0 ≤ (num.log2 : Int) - 52
      then roundQuotient num (1 * 2 ^ ((num.log2 : Int) - 52).toNat)
      else roundQuotient (num * 2 ^ (-((num.log2 : Int) - 52)).toNat) 1) ≤ 2 ^ (53 : Nat) := by
    split
    · rename_i hle
      refine roundQuotient_le (Nat.div_lt_of_lt_mul ?_)
      rw [Nat.one_mul, ← Nat.pow_add]
      have he : ((num.log2 : Int) - 52).toNat + 53 = num.log2 + 1 := by omega
      rwa [he]
    · rename_i hlt
      refine roundQuotient_le ?_
      have he : num.log2 + 1 + (-((num.log2 : Int) - 52)).toNat = 53 := by omega
      rw [Nat.div_one, ← he, Nat.pow_add]
      exact Nat.mul_lt_mul_of_pos_right hhigh (Nat.two_pow_pos _)
  omega

/-- **An integer** that is not far too great has a finite double. -/
theorem isFinite_ofInt {n : Int} (h : n.natAbs.log2 < 1023) : (ofInt n).isFinite = true := by
  have hlt : roundMagnitude n.natAbs 1 < infinityPattern := by
    by_cases hn : n.natAbs = 0
    · rw [hn]
      decide
    · have hle := roundMagnitude_le hn
      simp only [infinityPattern]
      omega
  simp only [ofInt, ofMagnitude, isFinite, decide_eq_true_eq]
  omega

end Double

namespace Json

/-! ### Proper values -/

/-- An integer fits 64 bits, with a sign or without one; a double is finite. -/
def Number.Fits : Number → Prop
  | .int n => -2 ^ (63 : Nat) ≤ n ∧ n < 2 ^ (64 : Nat)
  | .double d => d.isFinite = true

/-- **JSON values** in which all numbers fit. -/
inductive Proper : Json → Prop where
  | null : Proper .null
  | boolean (b : Bool) : Proper (.boolean b)
  | number {n : Number} (h : n.Fits) : Proper (.number n)
  | string (text : Text) : Proper (.string text)
  | array {items : List Json} (h : ∀ item ∈ items, Proper item) : Proper (.array items)
  | object {members : List (Text × Json)} (h : ∀ member ∈ members, Proper member.2) :
    Proper (.object members)

/-- **The double of a number** is finite. -/
theorem Number.isFinite_toDouble {n : Number} (h : n.Fits) : n.toDouble.isFinite = true := by
  cases n with
  | double d => exact h
  | int n =>
    refine Double.isFinite_ofInt ?_
    obtain ⟨hlow, hhigh⟩ := h
    by_cases hn : n.natAbs = 0
    · rw [hn]
      decide
    · have hlog : n.natAbs.log2 < 64 := (Nat.log2_lt hn).2 (by omega)
      omega

end Json
end Condition
