import Mathlib.Algebra.Order.Field.Rat
import Mathlib.Tactic.FieldSimp
import MessageForms.Proofs.Number.Digits
import MessageForms.Proofs.Text.Parts

/-!
# The value of a number is kept

A decimal and the digits of a number with the place of their point are rational numbers. Taking the
text of a number apart keeps the rational number that the text denotes, and so does laying the
digits out, in whatever form the place of the point asks for.
-/

namespace MessageForms

/-- The rational number that a decimal is. -/
def Decimal.value (decimal : Decimal) : ℚ :=
  decimal.coefficient * 10 ^ decimal.exponent

/-- A power of ten may stand in the coefficient or in the exponent. -/
theorem Decimal.value_mk_mul_pow (coefficient count : Nat) (exponent : Int) :
    Decimal.value ⟨coefficient * 10 ^ count, exponent⟩ =
      Decimal.value ⟨coefficient, exponent + count⟩ := by
  simp only [Decimal.value, Nat.cast_mul, Nat.cast_pow, Nat.cast_ofNat, mul_assoc]
  rw [← zpow_natCast, ← zpow_add₀ (by norm_num), Int.add_comm]

/-- A decimal is zero exactly if its coefficient is. -/
theorem Decimal.value_eq_zero_iff {decimal : Decimal} :
    decimal.value = 0 ↔ decimal.coefficient = 0 := by
  have positive : (10 : ℚ) ^ decimal.exponent ≠ 0 := zpow_ne_zero _ (by norm_num)
  rw [Decimal.value, mul_eq_zero, or_iff_left positive, Nat.cast_eq_zero]

/-- Digits with no zero too many at either end. -/
structure IsTidy (digits : Text) : Prop where
  isDigits : IsDigits digits
  nonempty : digits ≠ []
  first : digits.head? ≠ some Byte.zero
  last : digits.getLast? ≠ some Byte.zero

/-- A text in which every byte is zero. -/
theorem eq_zeros_of_forall {text : Text} (isZeros : ∀ byte ∈ text, byte == Byte.zero) :
    text = NumberStyle.zeros text.length :=
  List.eq_replicate_of_mem fun byte member => eq_of_beq (isZeros byte member)

namespace Significant

/-- The rational number `0.d₁d₂… * 10 ^ point`. -/
def value (significant : Significant) : ℚ :=
  Decimal.value ⟨natOfDigits significant.digits, significant.point - significant.digits.length⟩

/-- Digits lie between the zeros that are removed at both ends of them. -/
theorem exists_withoutZeros (digits : Text) :
    ∃ behind, digits =
      NumberStyle.zeros (digits.takeWhile (· == Byte.zero)).length ++ withoutZeros digits ++
        NumberStyle.zeros behind := by
  have leading : digits.takeWhile (· == Byte.zero) =
      NumberStyle.zeros (digits.takeWhile (· == Byte.zero)).length :=
    eq_zeros_of_forall fun _ member => List.mem_takeWhile_imp (p := (· == Byte.zero)) member
  have trailing : (digits.dropWhile (· == Byte.zero)).rtakeWhile (· == Byte.zero) =
      NumberStyle.zeros ((digits.dropWhile (· == Byte.zero)).rtakeWhile (· == Byte.zero)).length :=
    eq_zeros_of_forall fun _ member => List.mem_rtakeWhile_imp (p := (· == Byte.zero)) member
  refine ⟨((digits.dropWhile (· == Byte.zero)).rtakeWhile (· == Byte.zero)).length, ?_⟩
  calc digits
      = digits.takeWhile (· == Byte.zero) ++ digits.dropWhile (· == Byte.zero) :=
        List.takeWhile_append_dropWhile.symm
    _ = digits.takeWhile (· == Byte.zero) ++ (withoutZeros digits ++
          (digits.dropWhile (· == Byte.zero)).rtakeWhile (· == Byte.zero)) :=
        congrArg _ List.rdropWhile_append_rtakeWhile.symm
    _ = _ := by rw [← leading, ← trailing, List.append_assoc]

/-- Digits are tidy without the zeros at both ends, unless all of them are zeros. -/
theorem isTidy_withoutZeros {digits : Text} (isDigits : IsDigits digits)
    (nonzero : natOfDigits digits ≠ 0) : IsTidy (withoutZeros digits) where
  isDigits byte member := by
    obtain ⟨behind, parts⟩ := exists_withoutZeros digits
    apply isDigits byte
    rw [parts]
    simp [member]
  nonempty none := by
    obtain ⟨behind, parts⟩ := exists_withoutZeros digits
    apply nonzero
    rw [parts, none, natOfDigits_append_zeros, List.append_nil, natOfDigits_zeros, Nat.zero_mul]
  first begins := nomatch Text.head?_dropWhile_eq_some (Text.head?_rdropWhile_eq_some begins)
  last ends := nomatch Text.getLast?_rdropWhile_eq_some ends

end Significant

/-- A mantissa has no exponent mark in it. -/
theorem IsMantissa.isExponentMark_eq_false {mantissa whole fraction : Text}
    (isMantissa : IsMantissa mantissa whole fraction) :
    ∀ byte ∈ mantissa, !Significant.isExponentMark byte := by
  intro byte member
  have isAllowed := isMantissa.mem byte member
  grind [Byte.isDigit, Significant.isExponentMark]

/-- No digit is the point. -/
theorem IsDigits.point_notMem {digits : Text} (isDigits : IsDigits digits) :
    Byte.point ∉ digits :=
  fun member => nomatch isDigits _ member

/-- The digits of a mantissa are what is left without the point. -/
theorem IsMantissa.erase_point {mantissa whole fraction : Text}
    (isMantissa : IsMantissa mantissa whole fraction) :
    mantissa.erase Byte.point = whole ++ fraction := by
  cases isMantissa with
  | whole isWhole => rw [List.erase_of_not_mem isWhole.point_notMem, List.append_nil]
  | pointed isWhole => rw [List.erase_append_right _ isWhole.point_notMem, List.erase_cons_head]
  | fraction => exact List.erase_cons_head ..

/-- The whole digits of a mantissa stand before the point. -/
theorem IsMantissa.before_point {mantissa whole fraction : Text}
    (isMantissa : IsMantissa mantissa whole fraction) :
    Text.before Byte.point mantissa = whole := by
  have notPoint : ∀ {digits : Text}, IsDigits digits → ∀ byte ∈ digits, byte != Byte.point :=
    fun isDigits byte member => bne_iff_ne.mpr (ne_of_mem_of_not_mem member isDigits.point_notMem)
  cases isMantissa with
  | whole isWhole => exact List.takeWhile_eq_self_iff.mpr (notPoint isWhole)
  | pointed isWhole =>
    exact Text.takeWhile_append_of_stops (notPoint isWhole) (Text.stops_cons rfl _)
  | fraction => rfl

/-- The integer behind an exponent mark is the value of the exponent. -/
theorem IsExponent.leadingInt_tail {exponent : Text} {value : Int}
    (isExponent : IsExponent exponent value) : Significant.leadingInt exponent.tail = value := by
  cases isExponent with
  | none => rfl
  | @marked mark sign digits negative isMark isSign isDigits nonempty =>
    have solid : (sign ++ digits).trimStart = sign ++ digits := by
      obtain ⟨first, rest, rfl⟩ := List.exists_cons_of_ne_nil nonempty
      have solid : Byte.isBlank first = false := isBlank_of_isDigit (isDigits first (by simp))
      cases isSign with
      | none => simp [Text.trimStart, solid]
      | plus => rfl
      | minus => rfl
    have taken := Text.takeWhile_append_of_stops isDigits (Text.stops_nil _)
    rw [List.append_nil] at taken
    simp only [Significant.leadingInt, List.tail_cons, solid,
      cutSign_append isSign isDigits.isUnsigned, taken]

namespace Significant

/-- A numeral is taken apart into the digits of both sides of the point, without the zeros at their
ends, and the place of the point. -/
theorem ofText_append {mantissa whole fraction exponent : Text} {value : Int}
    (isMantissa : IsMantissa mantissa whole fraction) (isExponent : IsExponent exponent value) :
    ofText (mantissa ++ exponent) = ⟨withoutZeros (whole ++ fraction),
      whole.length + value - ((whole ++ fraction).takeWhile (· == Byte.zero)).length⟩ := by
  have stops : exponent.Stops (!isExponentMark ·) := by
    cases isExponent with
    | none => exact Text.stops_nil _
    | marked isMark => exact Text.stops_cons (by rcases isMark with rfl | rfl <;> rfl) _
  simp only [ofText, Text.takeWhile_append_of_stops isMantissa.isExponentMark_eq_false stops,
    Text.dropWhile_append_of_stops isMantissa.isExponentMark_eq_false stops, isMantissa.erase_point,
    isMantissa.before_point, isExponent.leadingInt_tail]

/-- Taking a numeral apart gives tidy digits and keeps its value, unless it is zero. -/
theorem ofText_of_isNumeral {text : Text} {decimal : Decimal} (isNumeral : IsNumeral text decimal)
    (nonzero : decimal.coefficient ≠ 0) :
    IsTidy (ofText text).digits ∧ (ofText text).value = decimal.value := by
  obtain @⟨mantissa, whole, fraction, exponent, shift, isMantissa, isExponent⟩ := isNumeral
  rw [ofText_append isMantissa isExponent]
  refine ⟨isTidy_withoutZeros isMantissa.isDigits nonzero, ?_⟩
  obtain ⟨behind, parts⟩ := exists_withoutZeros (whole ++ fraction)
  have spelled : natOfDigits (whole ++ fraction) =
      natOfDigits (withoutZeros (whole ++ fraction)) * 10 ^ behind := by
    conv_lhs => rw [parts]
    rw [natOfDigits_append_zeros, natOfDigits_zeros_append]
  have lengths := congrArg List.length parts
  simp only [List.length_append, length_zeros] at lengths
  simp only [spelled, Decimal.value_mk_mul_pow, value]
  congr 2
  omega

end Significant

end MessageForms
