import Mathlib.Tactic.SplitIfs
import MessageForms.Param
import MessageForms.Proofs.Text.Cuts

/-!
# Written numbers are ASCII

Whatever a style decides, a number is written with digits, the point, signs and an exponent
mark, beside the texts that the style itself provides.
-/

namespace MessageForms

/-- The digits of a number are digits. -/
theorem isDigit_of_mem_digitsOfNat {value : Nat} {byte : Byte}
    (member : byte ∈ digitsOfNat value) : Byte.isDigit byte := by
  obtain ⟨digit, inDigits, rfl⟩ := List.mem_map.mp member
  have isDigit := Nat.isDigit_of_mem_toDigits (by omega) (by omega) inDigits
  simp only [Char.isDigit, Bool.and_eq_true, decide_eq_true_eq] at isDigit
  have lower : 48 ≤ digit.toNat := UInt32.le_iff_toNat_le.mp isDigit.1
  have upper : digit.toNat ≤ 57 := UInt32.le_iff_toNat_le.mp isDigit.2
  simp only [Byte.isDigit, Byte.zero, Bool.and_eq_true, decide_eq_true_eq,
    UInt8.le_iff_toNat_le, Nat.toUInt8_eq, UInt8.toNat_ofNat']
  simp
  omega

/-- A digit is ASCII. -/
theorem isAscii_of_isDigit {byte : Byte} (isDigit : Byte.isDigit byte) :
    Byte.isAscii byte := by
  grind [Byte.isDigit, Byte.isAscii]

/-- The digits of a number are ASCII. -/
theorem isAscii_digitsOfNat (value : Nat) : Text.IsAscii (digitsOfNat value) := fun _ member =>
  isAscii_of_isDigit (isDigit_of_mem_digitsOfNat member)

/-- The text of an integer is ASCII. -/
theorem isAscii_textOfInt (value : Int) : Text.IsAscii (textOfInt value) := by
  have sign : Text.IsAscii (if value < 0 then [Byte.minus] else []) := by
    split
    next => exact Text.isAscii_cons.mpr ⟨rfl, Text.isAscii_nil⟩
    next => exact Text.isAscii_nil
  exact Text.isAscii_append.mpr ⟨sign, isAscii_digitsOfNat _⟩

namespace NumberStyle

/-- A style whose own texts are ASCII. -/
structure IsAscii (style : NumberStyle) : Prop where
  wholeMark : style.wholeMark.IsAscii
  zero : style.zero.IsAscii
  negativeZero : style.negativeZero.IsAscii
  infinity : style.infinity.IsAscii
  notANumber : style.notANumber.IsAscii

/-- Zeros are ASCII. -/
theorem isAscii_zeros (count : Nat) : (zeros count).IsAscii := by
  intro byte member
  obtain rfl := List.eq_of_mem_replicate member
  rfl

/-- An exponent is ASCII. -/
theorem isAscii_exponent (style : NumberStyle) (value : Int) :
    Text.IsAscii (style.exponent value) := by
  have sign : Byte.isAscii (if value < 0 then Byte.minus else Byte.plus) := by
    split <;> rfl
  simp [exponent, sign, isAscii_zeros, isAscii_digitsOfNat]

/-- The form with an exponent is ASCII if its digits are. -/
theorem isAscii_scientific (style : NumberStyle) {digits : Text} (isDigits : digits.IsAscii)
    (point : Int) : Text.IsAscii (style.scientific digits point) := by
  have first : Text.IsAscii (digits.take 1) := isDigits.of_subset (List.take_subset _ _)
  have others : Text.IsAscii (digits.drop 1) := isDigits.of_subset (List.drop_subset _ _)
  have fraction :
      Text.IsAscii (if digits.length ≤ 1 then [] else Byte.point :: digits.drop 1) := by
    split
    next => exact Text.isAscii_nil
    next => exact Text.isAscii_cons.mpr ⟨rfl, others⟩
  unfold scientific
  exact Text.isAscii_append.mpr ⟨Text.isAscii_append.mpr ⟨first, fraction⟩,
    Text.isAscii_cons.mpr ⟨rfl, isAscii_exponent style _⟩⟩

section Style

variable {style : NumberStyle} (ascii : style.IsAscii)
include ascii

/-- The positional form is ASCII if its digits are. -/
theorem isAscii_positional {digits : Text} (isDigits : digits.IsAscii) (point : Int) :
    Text.IsAscii (style.positional digits point) := by
  have isPoint : Byte.isAscii Byte.point := rfl
  have isZero : Byte.isAscii Byte.zero := rfl
  unfold positional
  split_ifs
  · simp [isAscii_zeros, isDigits, isPoint, isZero]
  · have left : Text.IsAscii (digits.take point.toNat) :=
      isDigits.of_subset (List.take_subset _ _)
    have right : Text.IsAscii (digits.drop point.toNat) :=
      isDigits.of_subset (List.drop_subset _ _)
    simp [left, right, isPoint]
  · simp [isAscii_zeros, isDigits, ascii.wholeMark]

/-- Whatever form is chosen is ASCII if the digits are. -/
theorem isAscii_layout {digits : Text} (isDigits : digits.IsAscii) (point : Int) :
    Text.IsAscii (style.layout digits point) := by
  unfold layout
  split
  next => exact isAscii_positional ascii isDigits _
  next => exact isAscii_scientific style isDigits _

/-- A decimal is written in ASCII. -/
theorem isAscii_decimal (decimal : Decimal) : Text.IsAscii (style.decimal decimal) :=
  isAscii_layout ascii (isAscii_digitsOfNat _) _

/-- An ASCII text is laid out anew in ASCII. -/
theorem isAscii_relay {text : Text} (isAscii : text.IsAscii) :
    Text.IsAscii (style.relay text) := by
  refine isAscii_layout ascii (isAscii.of_subset fun byte member => ?_) _
  have inMantissa := List.mem_of_mem_erase (List.dropWhile_subset _
    (List.mem_reverse.mp (List.dropWhile_subset _ (List.mem_reverse.mp member))))
  exact List.takeWhile_subset _ inMantissa

/-- A number is written in ASCII if the magnitudes are. -/
theorem isAscii_writeBy {magnitudeText : Magnitude → Text}
    (magnitudes : ∀ magnitude, (magnitudeText magnitude).IsAscii) (number : Double) :
    Text.IsAscii (style.writeBy magnitudeText number) := by
  have sign : ∀ negative : Bool, Text.IsAscii (if negative then [Byte.minus] else []) := by
    intro negative
    cases negative
    · exact Text.isAscii_nil
    · exact Text.isAscii_cons.mpr ⟨rfl, Text.isAscii_nil⟩
  cases number with
  | nan => exact ascii.notANumber
  | infinite negative => exact Text.isAscii_append.mpr ⟨sign negative, ascii.infinity⟩
  | finite negative magnitude =>
    simp only [writeBy]
    split_ifs
    · exact ascii.negativeZero
    · exact ascii.zero
    · exact Text.isAscii_append.mpr ⟨sign true, magnitudes _⟩
    · exact Text.isAscii_append.mpr ⟨sign false, magnitudes _⟩

/-- A number is written in ASCII. -/
theorem isAscii_write (number : Double) : Text.IsAscii (style.write number) :=
  isAscii_writeBy ascii (fun _ => isAscii_decimal ascii _) number

end Style

/-- The plain style is ASCII. -/
theorem isAscii_plain : plain.IsAscii := by
  constructor <;> decide +kernel

end NumberStyle

namespace ParamValue

/-- The style of parameters is ASCII. -/
theorem isAscii_numberStyle : numberStyle.IsAscii := by
  constructor <;> decide +kernel

/-- The number of a parameter is written in ASCII. -/
theorem isAscii_writeNumber (number : Double) : (writeNumber number).IsAscii :=
  NumberStyle.isAscii_writeBy isAscii_numberStyle
    (fun _ => NumberStyle.isAscii_relay isAscii_numberStyle
      (NumberStyle.isAscii_write NumberStyle.isAscii_plain _)) number

end ParamValue

end MessageForms
