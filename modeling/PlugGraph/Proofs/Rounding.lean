import PlugGraph.Number.Double

/-!
# Rounding to single precision is done once

A number of single precision is its own nearest one, and zero is such a number. What is not finite
stays what it is. Computations rely on the first two only: `Scalar.LawfulSingle`.
-/

namespace PlugGraph

/-- What computations rely on when they round to single precision. -/
class Scalar.LawfulSingle (α : Type) [Scalar α] : Prop where
  single_single : ∀ x : α, Scalar.single (Scalar.single x) = Scalar.single x
  single_zero : Scalar.single (0 : α) = 0
  isFinite_zero : Scalar.isFinite (0 : α) = true

theorem roundQuotient_mul (k : Nat) {d : Nat} (pos : 0 < d) : roundQuotient (k * d) d = k := by
  simp only [roundQuotient, Nat.mul_div_cancel k pos, Nat.mul_mod_left, Nat.mul_zero, if_pos pos]

namespace Magnitude

theorem dropBits_mul (k : Nat) : dropBits (k * lostFractions) = k * lostFractions := by
  rw [dropBits, roundQuotient_mul k (by decide)]

/-- Rounding off bits does not lower the exponent. -/
theorem le_dropBits {m : Nat} (large : ¬ m / fractions < minExponent) :
    ¬ dropBits m / fractions < minExponent := by
  have below : m / lostFractions ≤ roundQuotient m lostFractions := by
    unfold roundQuotient
    dsimp only
    split
    · exact Nat.le_refl _
    · split
      · omega
      · split <;> omega
  simp only [minExponent, fractions, dropBits, lostFractions] at below large ⊢
  omega

/-- The multiples of the unit stay what they are, up to the first one with all bits of single
precision. -/
theorem round_ofUnits {k : Nat} (h : k ≤ fullUnits) : round (ofUnits k) = ofUnits k := by
  rcases Nat.lt_or_eq_of_le h with less | rfl
  · by_cases zero : k = 0
    · subst zero
      decide +kernel
    · have log : k.log2 < 23 := (Nat.log2_lt zero).mpr less
      obtain ⟨lower, upper⟩ := shift_bounds zero (by omega)
      have form : ofUnits k = (k.log2 + 873) * fractions + k <<< (52 - k.log2) := if_neg zero
      have exponent : ofUnits k / fractions = k.log2 + 874 := by
        simp only [fractions] at lower upper form ⊢
        omega
      have fraction : ofUnits k % fractions + fractions = k <<< (52 - k.log2) := by
        simp only [fractions] at lower upper form ⊢
        omega
      have unit : 926 - max (k.log2 + 874) 1 = 52 - k.log2 := by omega
      have units : toUnits (ofUnits k) = k := by
        rw [Nat.shiftLeft_eq] at fraction
        simp only [toUnits, exponent, fraction, unit, Nat.one_shiftLeft]
        exact roundQuotient_mul k (Nat.two_pow_pos _)
      rw [round, if_pos (by simp only [exponent, minExponent]; omega), units]
  · decide +kernel

/-- Rounding a second time changes nothing, unless the first time has led to infinity. -/
theorem round_round (m : Nat) : round m = infinity ∨ round (round m) = round m := by
  by_cases small : m / fractions < minExponent
  · have rounded : round m = ofUnits (toUnits m) := if_pos small
    rw [rounded]
    exact .inr (round_ofUnits (toUnits_le small))
  · by_cases great : maxExponent < dropBits m / fractions
    · exact .inl (by rw [round, if_neg small, if_pos great])
    · have rounded : round m = dropBits m := by rw [round, if_neg small, if_neg great]
      have again : dropBits (dropBits m) = dropBits m := dropBits_mul _
      refine .inr ?_
      rw [rounded, round, if_neg (le_dropBits small), again, if_neg great]

end Magnitude

namespace Double

theorem magnitude_ofMagnitude {sign m : Nat} (hs : sign < 2) (hm : m ≤ Magnitude.infinity) :
    magnitude (ofMagnitude sign m hs hm) = m := by
  refine (congrArg (· % signUnit) (toNat_ofNat hs hm)).trans ?_
  simp only [signUnit, Magnitude.infinity, Magnitude.fractions] at hm ⊢
  omega

theorem signBit_ofMagnitude {sign m : Nat} (hs : sign < 2) (hm : m ≤ Magnitude.infinity) :
    signBit (ofMagnitude sign m hs hm) = sign := by
  refine (congrArg (· / signUnit) (toNat_ofNat hs hm)).trans ?_
  simp only [signUnit, Magnitude.infinity, Magnitude.fractions] at hm ⊢
  omega

/-- What is not finite stays what it is. -/
theorem single_of_infinity_le {x : Float} (h : Magnitude.infinity ≤ magnitude x) : single x = x :=
  if_pos h

theorem single_single (x : Float) : single (single x) = single x := by
  by_cases great : Magnitude.infinity ≤ magnitude x
  · rw [single_of_infinity_le great, single_of_infinity_le great]
  · have rounded : single x = ofMagnitude (signBit x) (Magnitude.round (magnitude x)) (signBit_lt x)
        (Magnitude.round_le _) := if_neg great
    rw [rounded]
    rcases Magnitude.round_round (magnitude x) with infinite | again
    · exact single_of_infinity_le (Nat.le_of_eq (by rw [magnitude_ofMagnitude, infinite]))
    · by_cases great : Magnitude.infinity ≤ Magnitude.round (magnitude x)
      · exact single_of_infinity_le (by rwa [magnitude_ofMagnitude])
      · rw [single, if_neg (by rwa [magnitude_ofMagnitude])]
        simp only [magnitude_ofMagnitude, signBit_ofMagnitude, again]

instance : Scalar.LawfulSingle Float where
  single_single := single_single
  single_zero := by decide +kernel
  isFinite_zero := by decide +kernel

end Double

end PlugGraph
