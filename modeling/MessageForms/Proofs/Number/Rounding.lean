import Mathlib.Data.Int.Log
import Mathlib.Data.Rat.Floor
import MessageForms.Proofs.Number.Value

/-!
# Rounding depends on the value only

A decimal rounds to the same number however it is written: the place of its point and the nearest
magnitude are determined by the rational number that it denotes. Every magnitude is the nearest one
to itself, and the shortest decimal of a magnitude rounds to it.
-/

namespace MessageForms

/-- A power with an integer exponent as a quotient of powers. -/
theorem zpow_eq_div_toNat {base : ℚ} (nonzero : base ≠ 0) (exponent : Int) :
    base ^ exponent = base ^ exponent.toNat / base ^ (-exponent).toNat := by
  rw [← zpow_natCast, ← zpow_natCast, ← zpow_sub₀ nonzero, Int.toNat_sub_toNat_neg]

/-- The quotient that stands for a coefficient times a power. -/
theorem scaled_fst_div_snd {base : Nat} (positive : base ≠ 0) (coefficient : Nat)
    (exponent : Int) :
    ((scaled base coefficient exponent).1 : ℚ) / (scaled base coefficient exponent).2 =
      coefficient * (base : ℚ) ^ exponent := by
  rw [zpow_eq_div_toNat (Nat.cast_ne_zero.mpr positive), ← mul_div_assoc]
  simp [scaled]

/-- The denominator of a coefficient times a power is positive. -/
theorem scaled_snd_ne_zero {base : Nat} (positive : base ≠ 0) (coefficient : Nat)
    (exponent : Int) : (scaled base coefficient exponent).2 ≠ 0 :=
  pow_ne_zero _ positive

/-- The logarithm of a number that lies between two neighbouring powers. -/
theorem log_eq_of_le_of_lt {base : Nat} (isBase : 1 < base) {value : ℚ} {exponent : Int}
    (below : (base : ℚ) ^ exponent ≤ value) (above : value < (base : ℚ) ^ (exponent + 1)) :
    Int.log base value = exponent := by
  have positive : 0 < value :=
    lt_of_lt_of_le (zpow_pos (Nat.cast_pos.mpr (Nat.lt_of_succ_lt isBase)) _) below
  have atLeast := (Int.zpow_le_iff_le_log isBase positive).mp below
  have atMost := (Int.lt_zpow_iff_log_lt isBase positive).mp above
  omega

/-- The logarithm of a coefficient times a power. -/
theorem log_mul_zpow {base coefficient : Nat} (isBase : 1 < base) (positive : coefficient ≠ 0)
    (exponent : Int) :
    Int.log base ((coefficient : ℚ) * (base : ℚ) ^ exponent) =
      Nat.log base coefficient + exponent := by
  have basePositive : (0 : ℚ) < base := Nat.cast_pos.mpr (Nat.lt_of_succ_lt isBase)
  have factor : (0 : ℚ) < (base : ℚ) ^ exponent := zpow_pos basePositive _
  have below : (base : ℚ) ^ (Nat.log base coefficient : Int) ≤ coefficient := by
    exact_mod_cast Nat.pow_log_le_self base positive
  have above : (coefficient : ℚ) < (base : ℚ) ^ (Nat.log base coefficient + 1 : Int) := by
    exact_mod_cast Nat.lt_pow_succ_log_self isBase coefficient
  apply log_eq_of_le_of_lt isBase
  · rw [zpow_add₀ basePositive.ne']
    exact mul_le_mul_of_nonneg_right below factor.le
  · rw [Int.add_right_comm, zpow_add₀ basePositive.ne']
    exact mul_lt_mul_of_pos_right above factor

namespace Magnitude

/-- A quotient rounds to the same number when it is expanded. -/
theorem roundQuotient_mul_right (numerator denominator : Nat) {factor : Nat}
    (positive : 0 < factor) :
    roundQuotient (numerator * factor) (denominator * factor) =
      roundQuotient numerator denominator := by
  have less : 2 * (numerator % denominator * factor) < denominator * factor ↔
      2 * (numerator % denominator) < denominator := by
    rw [← Nat.mul_assoc, Nat.mul_lt_mul_right positive]
  have same : 2 * (numerator % denominator * factor) = denominator * factor ↔
      2 * (numerator % denominator) = denominator := by
    rw [← Nat.mul_assoc, Nat.mul_left_inj (by omega)]
  simp only [roundQuotient, Nat.mul_div_mul_right _ _ positive, Nat.mul_mod_mul_right, less, same]

/-- Equal quotients round to the same number. -/
theorem roundQuotient_eq_of_mul_eq {numerator denominator other under : Nat}
    (positive : 0 < denominator) (underPositive : 0 < under)
    (same : numerator * under = other * denominator) :
    roundQuotient numerator denominator = roundQuotient other under := by
  rw [← roundQuotient_mul_right numerator denominator underPositive, same, Nat.mul_comm denominator,
    roundQuotient_mul_right other under positive]

/-- The greatest power of two in a quotient is its logarithm. -/
theorem floorLog2_eq_log {numerator denominator : Nat} (positive : numerator ≠ 0)
    (denominatorPositive : denominator ≠ 0) :
    floorLog2 numerator denominator = Int.log 2 ((numerator : ℚ) / denominator) := by
  have isPositive : (0 : ℚ) < denominator :=
    Nat.cast_pos.mpr (Nat.pos_of_ne_zero denominatorPositive)
  -- The logarithms of numerator and denominator leave two candidates.
  have below : (2 : ℚ) ^ ((numerator.log2 : Int) - denominator.log2 - 1) ≤
      numerator / denominator := by
    have atLeast : (2 : ℚ) ^ (numerator.log2 : Int) ≤ numerator := by
      exact_mod_cast Nat.log2_self_le positive
    have atMost : (denominator : ℚ) ≤ 2 ^ (denominator.log2 + 1 : Int) := by
      exact_mod_cast Nat.lt_log2_self.le
    rw [Int.sub_sub, zpow_sub₀ two_ne_zero]
    exact div_le_div₀ (Nat.cast_nonneg _) atLeast isPositive atMost
  have above : (numerator : ℚ) / denominator <
      2 ^ ((numerator.log2 : Int) - denominator.log2 + 1) := by
    have atMost : (numerator : ℚ) < 2 ^ (numerator.log2 + 1 : Int) := by
      exact_mod_cast Nat.lt_log2_self
    have atLeast : (2 : ℚ) ^ (denominator.log2 : Int) ≤ denominator := by
      exact_mod_cast Nat.log2_self_le denominatorPositive
    rw [sub_add_eq_add_sub, zpow_sub₀ two_ne_zero]
    exact div_lt_div₀ atMost atLeast (zpow_pos two_pos _).le (zpow_pos two_pos _)
  generalize guessed : (numerator.log2 : Int) - denominator.log2 = guess at below above
  have decided : denominator * Nat.pow 2 guess.toNat ≤ numerator * Nat.pow 2 (-guess).toNat ↔
      (2 : ℚ) ^ guess ≤ numerator / denominator := by
    rw [zpow_eq_div_toNat two_ne_zero, div_le_div_iff₀ (pow_pos two_pos _) isPositive, mul_comm]
    norm_cast
  simp only [floorLog2, guessed, decided]
  split
  next reached => exact (log_eq_of_le_of_lt Nat.one_lt_two reached above).symm
  next missed =>
    refine (log_eq_of_le_of_lt Nat.one_lt_two below ?_).symm
    rw [Int.sub_add_cancel]
    exact not_le.mp missed

/-- The nearest magnitude depends on the value of a quotient only. -/
theorem nearest?_eq_of_div_eq {numerator denominator other under : Nat}
    (positive : denominator ≠ 0) (underPositive : under ≠ 0)
    (same : (numerator : ℚ) / denominator = other / under) :
    nearest? numerator denominator = nearest? other under := by
  have crossed : numerator * under = other * denominator := by
    rw [div_eq_div_iff (Nat.cast_ne_zero.mpr positive) (Nat.cast_ne_zero.mpr underPositive)] at same
    exact_mod_cast same
  by_cases nothing : numerator = 0
  · have otherNothing : other = 0 := by
      rw [nothing, Nat.zero_mul, eq_comm, Nat.mul_eq_zero] at crossed
      exact crossed.resolve_right positive
    rw [nearest?, nearest?, if_pos nothing, if_pos otherNothing]
  · have otherPositive : other ≠ 0 := by
      rintro rfl
      rw [Nat.zero_mul, Nat.mul_eq_zero] at crossed
      exact crossed.elim nothing underPositive
    have rounded : ∀ scale : Int,
        roundQuotient (numerator * Nat.pow 2 (-scale).toNat) (denominator * Nat.pow 2 scale.toNat) =
          roundQuotient (other * Nat.pow 2 (-scale).toNat) (under * Nat.pow 2 scale.toNat) := by
      intro scale
      have power : ∀ count, 0 < Nat.pow 2 count := fun count => Nat.two_pow_pos count
      refine roundQuotient_eq_of_mul_eq (Nat.mul_pos (by omega) (power _))
        (Nat.mul_pos (by omega) (power _)) ?_
      rw [Nat.mul_mul_mul_comm, crossed, Nat.mul_mul_mul_comm]
    simp only [nearest?, if_neg nothing, if_neg otherPositive, floorLog2_eq_log nothing positive,
      floorLog2_eq_log otherPositive underPositive, same, rounded]

/-- The rational number that a magnitude is. -/
def value (magnitude : Magnitude) : ℚ :=
  magnitude.significand * 2 ^ magnitude.exponent

/-- What the fields of a magnitude may be. A significand has 53 bits, or fewer if the exponent is
the least one; together with the exponent it gives the bit pattern back. -/
structure Fields (magnitude : Magnitude) : Prop where
  significand_lt : magnitude.significand < 2 ^ 53
  normal : 2 ^ 52 ≤ magnitude.significand ∨ magnitude.exponent = -1074
  least : -1074 ≤ magnitude.exponent
  greatest : magnitude.exponent ≤ 971
  code : (magnitude.exponent + 1074).toNat * fractionCount + magnitude.significand = magnitude.val

/-- The fields of every magnitude are such. -/
theorem fields (magnitude : Magnitude) : magnitude.Fields := by
  have fits := magnitude.isLt
  by_cases least : magnitude.biased = 0
  · constructor
    all_goals
      simp only [significand, exponent, if_pos least]
      simp only [biased, fractionCount, infinityBits] at least fits ⊢
      omega
  · constructor
    all_goals
      simp only [significand, exponent, if_neg least]
      simp only [biased, fractionCount, infinityBits] at least fits ⊢
      omega

/-- Zero is the magnitude without a significand. -/
theorem significand_eq_zero_iff {magnitude : Magnitude} :
    magnitude.significand = 0 ↔ magnitude = zero := by
  have code := magnitude.fields.code
  rw [← Fin.val_inj, ← code]
  simp only [exponent, biased, fractionCount, zero] at code ⊢
  omega

/-- No magnitude reaches `2 ^ 1024`, which is below `10 ^ 309`. -/
theorem value_lt (magnitude : Magnitude) : magnitude.value < 10 ^ (309 : Int) := by
  have isLess : (magnitude.significand : ℚ) < 2 ^ 53 := by
    exact_mod_cast magnitude.fields.significand_lt
  have powers : 2 ^ 53 * 2 ^ 971 ≤ 10 ^ 309 := by decide +kernel
  calc magnitude.value
      < 2 ^ 53 * 2 ^ magnitude.exponent := mul_lt_mul_of_pos_right isLess (zpow_pos two_pos _)
    _ ≤ 2 ^ 53 * 2 ^ (971 : Int) := by
        gcongr
        · exact one_le_two
        · exact magnitude.fields.greatest
    _ ≤ 10 ^ (309 : Int) := by exact_mod_cast powers

/-- A magnitude other than zero is at least `2 ^ -1074`, which is above `10 ^ -324`. -/
theorem le_value {magnitude : Magnitude} (positive : magnitude ≠ zero) :
    10 ^ (-324 : Int) ≤ magnitude.value := by
  have isPositive : (1 : ℚ) ≤ magnitude.significand :=
    Nat.one_le_cast.mpr (Nat.pos_of_ne_zero (mt significand_eq_zero_iff.mp positive))
  have powers : 2 ^ 1074 ≤ 10 ^ 324 := by decide +kernel
  calc (10 : ℚ) ^ (-324 : Int)
      ≤ 1 * 2 ^ (-1074 : Int) := by
        rw [one_mul, zpow_neg, zpow_neg]
        exact inv_anti₀ (zpow_pos two_pos _) (by exact_mod_cast powers)
    _ ≤ 1 * 2 ^ magnitude.exponent := by
        gcongr
        · exact one_le_two
        · exact magnitude.fields.least
    _ ≤ magnitude.value := mul_le_mul_of_nonneg_right isPositive (zpow_pos two_pos _).le

/-- A magnitude is the quotient that stands for it. -/
theorem quotient_fst_div_snd (magnitude : Magnitude) :
    (magnitude.quotient.1 : ℚ) / magnitude.quotient.2 = magnitude.value :=
  scaled_fst_div_snd (by decide) _ _

/-- The scale at which a magnitude is rounded is its own exponent. -/
theorem scale_quotient {magnitude : Magnitude} (positive : magnitude.significand ≠ 0) :
    max (floorLog2 magnitude.quotient.1 magnitude.quotient.2 - 52) (-1074) =
      magnitude.exponent := by
  obtain ⟨atMost, normal, least, -, -⟩ := magnitude.fields
  have numerator : magnitude.quotient.1 ≠ 0 := mul_ne_zero positive (pow_ne_zero _ (by decide))
  have denominator : magnitude.quotient.2 ≠ 0 := scaled_snd_ne_zero (by decide) _ _
  have logarithm : floorLog2 magnitude.quotient.1 magnitude.quotient.2 =
      Nat.log 2 magnitude.significand + magnitude.exponent := by
    rw [floorLog2_eq_log numerator denominator, quotient_fst_div_snd]
    exact log_mul_zpow Nat.one_lt_two positive _
  have below : Nat.log 2 magnitude.significand < 53 := Nat.log_lt_of_lt_pow positive atMost
  have above : 2 ^ 52 ≤ magnitude.significand → 52 ≤ Nat.log 2 magnitude.significand :=
    Nat.le_log_of_pow_le Nat.one_lt_two
  omega

/-- Every magnitude is the nearest one to itself. -/
theorem nearest?_quotient (magnitude : Magnitude) :
    nearest? magnitude.quotient.1 magnitude.quotient.2 = some magnitude := by
  by_cases nothing : magnitude.significand = 0
  · have numerator : magnitude.quotient.1 = 0 := by
      rw [quotient, nothing, scaled, Nat.zero_mul]
    rw [nearest?, if_pos numerator, significand_eq_zero_iff.mp nothing]
  · have numerator : magnitude.quotient.1 ≠ 0 := mul_ne_zero nothing (pow_ne_zero _ (by decide))
    have power : ∀ count, 0 < Nat.pow 2 count := fun count => Nat.two_pow_pos count
    have rounded : roundQuotient
        (magnitude.quotient.1 * Nat.pow 2 (-magnitude.exponent).toNat)
        (magnitude.quotient.2 * Nat.pow 2 magnitude.exponent.toNat) = magnitude.significand := by
      calc roundQuotient _ _ = roundQuotient magnitude.significand 1 := by
            refine roundQuotient_eq_of_mul_eq (Nat.mul_pos (power _) (power _)) Nat.one_pos ?_
            simp only [quotient, scaled]
            ring
        _ = magnitude.significand := by simp [roundQuotient, Nat.mod_one]
    simp only [nearest?, if_neg numerator, scale_quotient nothing, rounded, magnitude.fields.code]
    exact dif_pos magnitude.isLt

end Magnitude

namespace Decimal

/-- A decimal is the quotient that stands for it. -/
theorem quotient_fst_div_snd (decimal : Decimal) :
    (decimal.quotient.1 : ℚ) / decimal.quotient.2 = decimal.value :=
  scaled_fst_div_snd (by decide) _ _

/-- The magnitude nearest to a decimal is the one nearest to any quotient that is its value. -/
theorem nearest?_quotient_eq {decimal : Decimal} {numerator denominator : Nat}
    (positive : denominator ≠ 0) (same : decimal.value = numerator / denominator) :
    Magnitude.nearest? decimal.quotient.1 decimal.quotient.2 =
      Magnitude.nearest? numerator denominator :=
  Magnitude.nearest?_eq_of_div_eq (scaled_snd_ne_zero (by decide) _ _) positive
    (decimal.quotient_fst_div_snd.trans same)

/-- The place of the point is determined by the value. -/
theorem point_eq_log {decimal : Decimal} (positive : decimal.coefficient ≠ 0) :
    decimal.point = Int.log 10 decimal.value + 1 := by
  have logarithm := log_mul_zpow (by decide : 1 < 10) positive decimal.exponent
  rw [value, point, digits, length_digitsOfNat positive]
  push_cast at logarithm ⊢
  omega

/-- Decimals of the same value round to the same number. -/
theorem toDouble_eq_of_value_eq {decimal other : Decimal} (same : decimal.value = other.value)
    (negative : Bool) : decimal.toDouble negative = other.toDouble negative := by
  by_cases nothing : decimal.coefficient = 0
  · have otherNothing : other.coefficient = 0 := by
      rw [← value_eq_zero_iff, ← same, value_eq_zero_iff, nothing]
    rw [toDouble, toDouble, if_pos nothing, if_pos otherNothing]
  · have otherPositive : other.coefficient ≠ 0 := by
      rwa [Ne, ← value_eq_zero_iff, ← same, value_eq_zero_iff]
    have points : decimal.point = other.point := by
      rw [point_eq_log nothing, point_eq_log otherPositive, same]
    have nearest : Magnitude.nearest? decimal.quotient.1 decimal.quotient.2 =
        Magnitude.nearest? other.quotient.1 other.quotient.2 :=
      nearest?_quotient_eq (scaled_snd_ne_zero (by decide) _ _)
        (same.trans other.quotient_fst_div_snd.symm)
    simp only [toDouble, if_neg nothing, if_neg otherPositive, points, Double.ofQuotient, nearest]

/-- The sign of a decimal is put on the magnitude that it rounds to. -/
theorem toDouble_eq_finite_iff {decimal : Decimal} {negative : Bool} {magnitude : Magnitude} :
    decimal.toDouble negative = .finite negative magnitude ↔
      decimal.toDouble false = .finite false magnitude := by
  simp only [toDouble, Double.ofQuotient]
  grind

/-- The exact decimal of a magnitude has its value. -/
theorem value_exact (magnitude : Magnitude) : (exact magnitude).value = magnitude.value := by
  unfold exact
  split
  next positive =>
    simp only [value, Magnitude.value, zpow_zero, mul_one, Nat.pow_eq]
    push_cast
    rw [← zpow_natCast, Int.toNat_of_nonneg positive]
  next negative =>
    have fives : (5 : ℚ) ^ (-magnitude.exponent).toNat * 5 ^ magnitude.exponent = 1 := by
      rw [← zpow_natCast, Int.toNat_of_nonneg (by omega), ← zpow_add₀ (by norm_num),
        Int.add_left_neg, zpow_zero]
    have ten : (10 : ℚ) = 5 * 2 := by norm_num
    simp only [value, Magnitude.value, Nat.pow_eq]
    push_cast
    rw [ten, mul_zpow, mul_assoc, ← mul_assoc (5 ^ _), fives, one_mul]

/-- The exact decimal of a magnitude rounds to it. Its point lies in the range in which the decimal
is rounded. -/
theorem toDouble_exact {magnitude : Magnitude} (positive : magnitude ≠ .zero) :
    (exact magnitude).toDouble false = .finite false magnitude := by
  have isPositive : 0 < magnitude.value :=
    lt_of_lt_of_le (zpow_pos (by norm_num) _) (Magnitude.le_value positive)
  have coefficient : (exact magnitude).coefficient ≠ 0 := by
    rw [Ne, ← value_eq_zero_iff, value_exact]
    exact isPositive.ne'
  have atMostPoint := (Int.lt_zpow_iff_log_lt (by decide : 1 < 10) isPositive).mp magnitude.value_lt
  have atLeastPoint := (Int.zpow_le_iff_le_log (by decide : 1 < 10) isPositive).mp
    (Magnitude.le_value positive)
  have point := point_eq_log coefficient
  rw [value_exact] at point
  have nearest : Magnitude.nearest? (exact magnitude).quotient.1 (exact magnitude).quotient.2 =
      some magnitude := by
    rw [← magnitude.nearest?_quotient]
    exact nearest?_quotient_eq (scaled_snd_ne_zero (by decide) _ _)
      ((value_exact magnitude).trans magnitude.quotient_fst_div_snd.symm)
  rw [toDouble, if_neg coefficient, if_neg (by omega), if_neg (by omega)]
  simp only [Double.ofQuotient, nearest]

/-- Moving zeros from the coefficient into the exponent keeps the value. -/
theorem value_stripFrom (steps coefficient : Nat) (exponent : Int) :
    (stripFrom steps coefficient exponent).value = value ⟨coefficient, exponent⟩ := by
  induction steps generalizing coefficient exponent with
  | zero => rfl
  | succ steps inductionHypothesis =>
    rw [stripFrom]
    split
    next divisible =>
      have parts : coefficient = coefficient / 10 * 10 ^ 1 := by omega
      rw [inductionHypothesis]
      conv_rhs => rw [parts, value_mk_mul_pow]
      rfl
    next => rfl

/-- A decimal keeps its value when it is normalized. -/
theorem value_normalize (decimal : Decimal) : decimal.normalize.value = decimal.value :=
  value_stripFrom _ _ _

/-- A decimal that is found with a given number of digits rounds to the magnitude. -/
theorem identifies_of_withDigits? {magnitude : Magnitude} {exact decimal : Decimal} {count : Nat}
    (found : withDigits? magnitude exact count = some decimal) : decimal.identifies magnitude := by
  unfold withDigits? at found
  grind

/-- The shortest decimal of a magnitude rounds to it. -/
theorem toDouble_shortest {magnitude : Magnitude} (positive : magnitude ≠ .zero) :
    (shortest magnitude).toDouble false = .finite false magnitude := by
  rw [shortest, toDouble_eq_of_value_eq (value_normalize _)]
  cases found : (List.range' 1 17).findSome? (withDigits? magnitude (exact magnitude)) with
  | none => exact toDouble_exact positive
  | some decimal =>
    obtain ⟨count, -, isFound⟩ := List.exists_of_findSome?_eq_some found
    exact eq_of_beq (identifies_of_withDigits? isFound)

end Decimal

end MessageForms
