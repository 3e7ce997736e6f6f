import MessageForms.Proofs.Number.Layout
import MessageForms.Proofs.Number.Reading
import MessageForms.Proofs.Number.Rounding

/-!
# Written numbers are read back

The text of a number is its plain text, taken apart and laid out anew. Neither step changes the
rational number that the text denotes, so what is read from it is the number that the plain text
rounds to, which is the one that was written.
-/

namespace MessageForms

/-- Whether a number is less than zero. Neither zero is. -/
def Double.isNegative : Double → Bool
  | .nan => false
  | .infinite negative => negative
  | .finite negative magnitude => negative && magnitude != .zero

namespace NumberStyle

/-- The digits of a decimal stand for the decimal. -/
theorem value_significant (decimal : Decimal) :
    Significant.value ⟨decimal.digits, decimal.point⟩ = decimal.value := by
  simp only [Significant.value, Decimal.point, add_sub_cancel_left, Decimal.digits,
    natOfDigits_digitsOfNat]

/-- The plain text of a magnitude is a numeral that rounds to the magnitude. -/
theorem exists_isNumeral_plain {magnitude : Magnitude} (positive : magnitude ≠ .zero) :
    ∃ printed, IsNumeral (plain.write (.finite false magnitude)) printed ∧
      printed.toDouble false = .finite false magnitude := by
  have written : plain.write (.finite false magnitude) =
      plain.decimal (Decimal.shortest magnitude) :=
    if_neg positive
  obtain ⟨printed, isNumeral, sameValue⟩ := exists_isNumeral_layout
    (isDigits_digitsOfNat _) (digitsOfNat_ne_nil _) (rfl : plain.wholeMark = [])
  refine ⟨printed, written ▸ isNumeral, ?_⟩
  rw [Decimal.toDouble_eq_of_value_eq (sameValue.trans (value_significant _)),
    Decimal.toDouble_shortest positive]

/-- A numeral other than zero keeps its value when it is laid out anew. -/
theorem exists_isNumeral_relay (style : NumberStyle) (unmarked : style.wholeMark = []) {text : Text}
    {decimal : Decimal} (isNumeral : IsNumeral text decimal) (nonzero : decimal.coefficient ≠ 0) :
    ∃ written, IsNumeral (style.relay text) written ∧ written.value = decimal.value := by
  obtain ⟨isTidy, sameValue⟩ := Significant.ofText_of_isNumeral isNumeral nonzero
  rw [← sameValue]
  exact exists_isNumeral_layout isTidy.isDigits isTidy.nonempty unmarked

end NumberStyle

/-- A decimal that rounds to a magnitude other than zero is not zero. -/
theorem Decimal.coefficient_ne_zero {decimal : Decimal} {magnitude : Magnitude}
    (rounds : decimal.toDouble false = .finite false magnitude) (positive : magnitude ≠ .zero) :
    decimal.coefficient ≠ 0 := by
  intro nothing
  rw [toDouble, if_pos nothing] at rounds
  cases rounds
  exact positive rfl

/-- The sign of a number is a sign. -/
theorem isSign_of_negative (negative : Bool) :
    IsSign (if negative then [Byte.minus] else []) negative := by
  cases negative with
  | false => exact .none
  | true => exact .minus

namespace ParamValue

/-- A numeral that rounds to a magnitude spells it with its sign when it is laid out anew. -/
theorem spells_relay {text : Text} {decimal : Decimal} {magnitude : Magnitude}
    (isNumeral : IsNumeral text decimal)
    (rounds : decimal.toDouble false = .finite false magnitude) (positive : magnitude ≠ .zero)
    (negative : Bool) :
    Spells ((if negative then [Byte.minus] else []) ++ numberStyle.relay text)
      (.finite negative magnitude) := by
  have nonzero := Decimal.coefficient_ne_zero rounds positive
  obtain ⟨written, isWritten, sameValue⟩ :=
    numberStyle.exists_isNumeral_relay rfl isNumeral nonzero
  have isRead : written.toDouble negative = .finite negative magnitude := by
    rw [Decimal.toDouble_eq_finite_iff, Decimal.toDouble_eq_of_value_eq sameValue, rounds]
  rw [← isRead]
  exact .numeral (isSign_of_negative negative) isWritten

/-- What a text without outer blanks spells is what is read from it. -/
theorem Spells.readNumber_eq {text : Text} {number : Double} (spells : Spells text number) :
    readNumber text = number := by
  apply readNumber_of_spells
  rwa [spells.isSolid.trim_eq]

/-- The text of a magnitude other than zero is its plain text laid out anew, behind the sign. -/
theorem toText_finite (negative : Bool) {magnitude : Magnitude} (positive : magnitude ≠ .zero) :
    toText (.number (.finite negative magnitude)) =
      (if negative then [Byte.minus] else []) ++
        numberStyle.relay (NumberStyle.plain.write (.finite false magnitude)) :=
  if_neg positive

/-- The text of a number spells a number that is equal to it. -/
theorem exists_spells_toText {number : Double} (isNumber : number ≠ .nan) :
    ∃ spelled, Spells (toText (.number number)) spelled ∧ spelled.equals number := by
  cases number with
  | nan => exact absurd rfl isNumber
  | infinite negative =>
    exact ⟨_, .infinity (isSign_of_negative negative), by simp [Double.equals]⟩
  | finite negative magnitude =>
    by_cases nothing : magnitude = .zero
    · have isNumeral : IsNumeral "0" ⟨0, 0⟩ := Decimal.scan?_eq_some_nil_iff.mp (by decide)
      have written : toText (.number (.finite negative magnitude)) = "0" := by
        rw [nothing]
        cases negative <;> rfl
      rw [written, nothing]
      exact ⟨.finite false .zero, .numeral .none isNumeral, by simp [Double.equals]⟩
    · obtain ⟨printed, isNumeral, rounds⟩ := NumberStyle.exists_isNumeral_plain nothing
      rw [toText_finite negative nothing]
      exact ⟨_, spells_relay isNumeral rounds nothing negative, by simp [Double.equals]⟩

/-- The text of a number begins with a minus sign exactly if the number is less than zero. -/
theorem head?_toText_eq_minus_iff (number : Double) :
    (toText (.number number)).head? = some Byte.minus ↔ number.isNegative := by
  cases number with
  | nan => decide
  | infinite negative => cases negative <;> decide
  | finite negative magnitude =>
    by_cases nothing : magnitude = .zero
    · rw [nothing]
      cases negative <;> decide
    · obtain ⟨printed, isNumeral, rounds⟩ := NumberStyle.exists_isNumeral_plain nothing
      have nonzero := Decimal.coefficient_ne_zero rounds nothing
      obtain ⟨written, isWritten, -⟩ := numberStyle.exists_isNumeral_relay rfl isNumeral nonzero
      rw [toText_finite negative nothing]
      cases negative with
      | false => exact iff_of_false isWritten.isUnsigned.1 nofun
      | true => simp [Double.isNegative, nothing]

/-- Writing a number never changes its value, and reading gives the number back.

The text of a positive number is taken apart into tidy digits and the place of their point, and
these are the number that the text denotes. Tidy digits are laid out as a numeral that denotes the
number they stand for, wherever the point is; it has an exponent exactly if the point is not
between -5 and 21, and without one there is no zero too many in it. So the text of a number denotes
what its plain text denotes, with a minus sign exactly if the number is less than zero. It lies in
the grammar that is read, and the number that is read is equal to the one that was written; this
does not depend on how the plain text is chosen among those that round to the number. -/
theorem toText_keeps_value :
    (∀ text decimal, IsNumeral text decimal → decimal.coefficient ≠ 0 →
      IsTidy (Significant.ofText text).digits ∧
        (Significant.ofText text).value = decimal.value) ∧
    (∀ digits point, IsTidy digits →
      (∃ written, IsNumeral (numberStyle.layout digits point) written ∧
        written.value = Significant.value ⟨digits, point⟩) ∧
      (0x65 ∈ numberStyle.layout digits point ↔ point ≤ -6 ∨ 21 < point) ∧
      (0x65 ∉ numberStyle.layout digits point → IsConcise (numberStyle.layout digits point))) ∧
    (∀ negative magnitude, magnitude ≠ .zero →
      ∃ body printed written,
        IsNumeral (NumberStyle.plain.write (.finite false magnitude)) printed ∧
        IsNumeral body written ∧ written.value = printed.value ∧
        toText (.number (.finite negative magnitude)) =
          (if negative then [Byte.minus] else []) ++ body) ∧
    (∀ number, (toText (.number number)).head? = some Byte.minus ↔ number.isNegative) ∧
    (∀ number, number ≠ .nan →
      Spells (toText (.number number)) (readNumber (toText (.number number))) ∧
        (readNumber (toText (.number number))).equals number) ∧
    (∀ text decimal negative magnitude, IsNumeral text decimal →
      decimal.toDouble false = .finite false magnitude → magnitude ≠ .zero →
      readNumber ((if negative then [Byte.minus] else []) ++ numberStyle.relay text) =
        .finite negative magnitude) := by
  refine ⟨fun _ _ => Significant.ofText_of_isNumeral, ?layout, ?text, head?_toText_eq_minus_iff,
    ?read, ?anyText⟩
  case layout =>
    intro digits point isTidy
    have inRange : 0x65 ∈ numberStyle.layout digits point ↔ point ≤ -6 ∨ 21 < point := by
      rw [NumberStyle.mark_mem_layout_iff isTidy.isDigits isTidy.nonempty rfl]
      simp only [numberStyle]
      omega
    exact ⟨NumberStyle.exists_isNumeral_layout isTidy.isDigits isTidy.nonempty rfl, inRange,
      NumberStyle.isConcise_layout isTidy rfl⟩
  case text =>
    intro negative magnitude positive
    obtain ⟨printed, isNumeral, rounds⟩ := NumberStyle.exists_isNumeral_plain positive
    have nonzero := Decimal.coefficient_ne_zero rounds positive
    obtain ⟨written, isWritten, sameValue⟩ :=
      numberStyle.exists_isNumeral_relay rfl isNumeral nonzero
    exact ⟨_, printed, written, isNumeral, isWritten, sameValue, toText_finite negative positive⟩
  case read =>
    intro number isNumber
    obtain ⟨spelled, spells, same⟩ := exists_spells_toText isNumber
    rw [spells.readNumber_eq]
    exact ⟨spells, same⟩
  case anyText =>
    intro text decimal negative magnitude isNumeral rounds positive
    exact (spells_relay isNumeral rounds positive negative).readNumber_eq

/-- A plain text with a zero at its end and an exponent is taken apart, digits are laid out around
the point, and one is written and read back with either sign. -/
theorem toText_keeps_value_atOne :
    IsTidy (Significant.ofText "1.50e-07").digits ∧
      (Significant.ofText "1.50e-07").value = Decimal.value ⟨150, -9⟩ ∧
      IsConcise (numberStyle.layout "15" 1) ∧
      (∃ body written, IsNumeral body written ∧
        toText (.number (.finite true ⟨0x3FF0000000000000, by decide⟩)) = [Byte.minus] ++ body) ∧
      (readNumber (toText (.number .one))).equals .one ∧
      readNumber ([Byte.minus] ++ numberStyle.relay "1.0") =
        .finite true ⟨0x3FF0000000000000, by decide⟩ := by
  have isNumeral : IsNumeral "1.50e-07" ⟨150, -9⟩ :=
    Decimal.scan?_eq_some_nil_iff.mp (by decide)
  have isOne : IsNumeral "1.0" ⟨10, -1⟩ := Decimal.scan?_eq_some_nil_iff.mp (by decide)
  have isTidy : IsTidy "15" := ⟨by decide, by decide, by decide, by decide⟩
  obtain ⟨takenApart, laidOut, hasText, -, readBack, anyText⟩ := toText_keeps_value
  obtain ⟨tidy, sameValue⟩ := takenApart _ _ isNumeral (by decide)
  obtain ⟨body, -, written, -, isWritten, -, isText⟩ :=
    hasText true ⟨0x3FF0000000000000, by decide⟩ (by decide)
  exact ⟨tidy, sameValue, (laidOut _ _ isTidy).2.2 (by decide), ⟨body, written, isWritten, isText⟩,
    (readBack .one nofun).2, anyText _ _ true _ isOne (by decide) (by decide)⟩

end ParamValue

end MessageForms
