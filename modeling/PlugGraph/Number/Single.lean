/-!
# Rounding to single precision

Without its sign a double-precision float is a natural number: its exponent field, followed by the
52 bits of its fraction. Floats are ordered like these *magnitudes*, infinity is the first one whose
exponent field is full, and beyond it is what is not a number. Rounding keeps the sign and acts on
the magnitude.

Where single precision has all of its 24 significant bits, the last 29 bits of the fraction are
rounded off, and a carry runs into the exponent as it should. Below, the numbers of single precision
are the multiples of one unit, `2 ^ (-149)`.
-/

namespace PlugGraph

/-- The natural number nearest to a quotient; a half goes to the even neighbour. -/
def roundQuotient (n d : Nat) : Nat :=
  let below := n / d
  let rest := 2 * (n % d)
  if rest < d then below
  else if d < rest then below + 1
  else if below % 2 = 0 then below
  else below + 1

theorem roundQuotient_le (n d : Nat) : roundQuotient n d ≤ n / d + 1 := by
  unfold roundQuotient
  dsimp only
  split
  · omega
  · split
    · omega
    · split <;> omega

namespace Magnitude

/-- How many fractions there are to an exponent. -/
def fractions : Nat := 0x10000000000000

def infinity : Nat := 2047 * fractions

/-- The least exponent field at which single precision has all of its bits. -/
def minExponent : Nat := 897

/-- The greatest exponent field of a finite number of single precision. -/
def maxExponent : Nat := 1150

/-- The units of the least number at which single precision has all of its bits. -/
def fullUnits : Nat := 0x800000

/-- The multiple of the unit nearest to a number below the least exponent. -/
def toUnits (m : Nat) : Nat :=
  let exponent := m / fractions
  let significand := if exponent = 0 then m else m % fractions + fractions
  roundQuotient significand (1 <<< (926 - max exponent 1))

/-- The magnitude of a multiple of the unit. -/
def ofUnits (k : Nat) : Nat :=
  if k = 0 then 0 else (k.log2 + 873) * fractions + k <<< (52 - k.log2)

/-- What the bits of the fraction that single precision lacks amount to. -/
def lostFractions : Nat := 0x20000000

/-- The magnitude with those bits rounded off. -/
def dropBits (m : Nat) : Nat := roundQuotient m lostFractions * lostFractions

/-- Rounds to single precision. What is too great becomes infinite. -/
def round (m : Nat) : Nat :=
  if m / fractions < minExponent then ofUnits (toUnits m)
  else if maxExponent < dropBits m / fractions then infinity
  else dropBits m

theorem toUnits_le {m : Nat} (small : m / fractions < minExponent) : toUnits m ≤ fullUnits := by
  have unit : 2 ^ 30 ≤ 1 <<< (926 - max (m / fractions) 1) := by
    rw [Nat.one_shiftLeft]
    exact Nat.pow_le_pow_right (by decide) (by simp only [minExponent] at small; omega)
  have significand : (if m / fractions = 0 then m else m % fractions + fractions) <
      2 ^ 30 * fullUnits := by
    split <;> simp only [fractions, fullUnits] at * <;> omega
  refine Nat.le_trans (roundQuotient_le _ _) (Nat.div_lt_of_lt_mul ?_)
  exact Nat.lt_of_lt_of_le significand (Nat.mul_le_mul_right _ unit)

/-- Shifted to the left, the leading bit of a multiple of the unit is the one that a fraction
leaves out. -/
theorem shift_bounds {k : Nat} (pos : k ≠ 0) (short : k.log2 ≤ 52) :
    fractions ≤ k <<< (52 - k.log2) ∧ k <<< (52 - k.log2) < 2 * fractions := by
  have lower := Nat.mul_le_mul_right (2 ^ (52 - k.log2)) (Nat.log2_self_le pos)
  have upper := Nat.mul_lt_mul_of_pos_right (Nat.lt_log2_self (n := k))
    (Nat.two_pow_pos (52 - k.log2))
  rw [← Nat.pow_add] at lower upper
  rw [show k.log2 + (52 - k.log2) = 52 by omega] at lower
  rw [show k.log2 + 1 + (52 - k.log2) = 53 by omega] at upper
  rw [Nat.shiftLeft_eq]
  exact ⟨lower, upper⟩

theorem log2_le {k : Nat} (h : k ≤ fullUnits) : k.log2 ≤ 23 := by
  simp only [fullUnits] at h
  rcases Nat.eq_zero_or_pos k with rfl | pos
  · decide
  · have := (Nat.log2_lt (k := 24) (Nat.ne_of_gt pos)).mpr (by omega)
    omega

theorem ofUnits_lt {k : Nat} (h : k ≤ fullUnits) : ofUnits k < infinity := by
  have short := log2_le h
  unfold ofUnits
  split
  · decide
  · next pos =>
    have := (shift_bounds pos (by omega)).2
    simp only [infinity, fractions] at this ⊢
    omega

/-- Rounding makes nothing greater than infinity. -/
theorem round_le (m : Nat) : round m ≤ infinity := by
  unfold round
  split
  · next small => exact Nat.le_of_lt (ofUnits_lt (toUnits_le small))
  · split
    · exact Nat.le_refl _
    · next finite =>
      simp only [maxExponent, infinity, fractions] at finite ⊢
      omega

end Magnitude

namespace Double

open Float.Model (Format UnpackedFloat)

/-- The sign bit in the place that it has. -/
def signUnit : Nat := 0x8000000000000000

/-- The bits of a float without its sign. -/
def magnitude (x : Float) : Nat := x.toBits.toNat % signUnit

def signBit (x : Float) : Nat := x.toBits.toNat / signUnit

/-- Bits are those of a number if the magnitude is not beyond infinity. -/
theorem valid_of_le {bits : UInt64} (h : bits.toNat % signUnit ≤ Magnitude.infinity) :
    Format.binary64.Valid bits.toBitVec where
  eq_packedNaN full rest := by
    refine absurd (BitVec.eq_of_toNat_eq ?_) rest
    have exponent : bits.toNat / 2 ^ 52 % 2 ^ 11 = 2047 := by
      simpa [UnpackedFloat.unpackExponent, Nat.shiftRight_eq_div_pow]
        using congrArg BitVec.toNat full
    have fraction : bits.toNat % 2 ^ 52 = 0 := by
      simp only [signUnit, Magnitude.infinity, Magnitude.fractions] at h
      omega
    simpa [UnpackedFloat.unpackMantissa] using fraction

theorem toNat_ofNat {sign m : Nat} (hs : sign < 2) (hm : m ≤ Magnitude.infinity) :
    (UInt64.ofNat (sign * signUnit + m)).toNat = sign * signUnit + m := by
  simp only [signUnit, Magnitude.infinity, Magnitude.fractions] at hm ⊢
  rw [UInt64.toNat_ofNat', Nat.mod_eq_of_lt (by omega)]

def ofMagnitude (sign m : Nat) (hs : sign < 2) (hm : m ≤ Magnitude.infinity) : Float :=
  .ofModel
    { toBits := .ofNat (sign * signUnit + m)
      valid := valid_of_le (by
        rw [toNat_ofNat hs hm]
        simp only [signUnit, Magnitude.infinity, Magnitude.fractions] at hm ⊢
        omega) }

theorem signBit_lt (x : Float) : signBit x < 2 := by
  have := x.toBits.toNat_lt
  simp only [signBit, signUnit]
  omega

/-- Rounds to the nearest number of single precision. -/
def single (x : Float) : Float :=
  if Magnitude.infinity ≤ magnitude x then x
  else ofMagnitude (signBit x) (Magnitude.round (magnitude x)) (signBit_lt x) (Magnitude.round_le _)

end Double

end PlugGraph
