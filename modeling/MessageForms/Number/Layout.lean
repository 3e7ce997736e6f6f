import MessageForms.Number.Decimal

/-!
# Layout of numbers

A number is written with the digits of its shortest decimal. Where the point goes, when an
exponent is written and how the special values look is decided by a style; the styles of
this library are values of `NumberStyle`. A text in one style can be laid out anew in another.
-/

namespace MessageForms

/-- The decisions of a number format. -/
structure NumberStyle where
  /-- The least place of the point, counted from the left of the digits, that is written
  positionally. -/
  leastPoint : Int
  /-- The greatest place of the point that is written positionally. -/
  greatestPoint : Int
  /-- What follows a whole number in positional form. -/
  wholeMark : Text
  /-- The least number of digits of an exponent. -/
  exponentWidth : Nat
  /-- The text of zero. -/
  zero : Text
  /-- The text of negative zero. -/
  negativeZero : Text
  /-- The text of positive infinity; the negative one has a minus sign before it. -/
  infinity : Text
  /-- The text of the NaN. -/
  notANumber : Text

/-- The digits of a positive number, and the place of the point counted from the left of them: the
number is `0.d₁d₂… * 10 ^ point`. -/
structure Significant where
  digits : Text
  point : Int
deriving DecidableEq, Repr

namespace Significant

/-- Whether a byte begins an exponent. -/
def isExponentMark (byte : Byte) : Bool :=
  byte == 0x65 || byte == 0x45

/-- The integer that a text begins with after blanks, zero if it begins with none. -/
def leadingInt (text : Text) : Int :=
  let (negative, unsigned) := cutSign text.trimStart
  let value := natOfDigits (unsigned.takeWhile Byte.isDigit)
  if negative then -(value : Int) else value

/-- Digits without the zeros at both ends. -/
def withoutZeros (digits : Text) : Text :=
  ((digits.dropWhile (· == Byte.zero)).reverse.dropWhile (· == Byte.zero)).reverse

/-- Takes the text of a positive number apart. The point moves with the exponent, and with the
zeros that are removed before the first digit that counts. -/
def ofText (text : Text) : Significant :=
  let mantissa := text.takeWhile (!isExponentMark ·)
  let exponent := leadingInt (text.dropWhile (!isExponentMark ·)).tail
  let digits := mantissa.erase Byte.point
  let whole := (Text.before Byte.point mantissa).length
  let first := (digits.takeWhile (· == Byte.zero)).length
  ⟨withoutZeros digits, whole + exponent - first⟩

end Significant

namespace NumberStyle

/-- A run of zeros. -/
def zeros (count : Nat) : Text :=
  List.replicate count Byte.zero

/-- Digits in positional form with the point at a given place. -/
def positional (style : NumberStyle) (digits : Text) (point : Int) : Text :=
  if point ≤ 0 then
    Byte.zero :: Byte.point :: zeros (-point).toNat ++ digits
  else if point < digits.length then
    digits.take point.toNat ++ Byte.point :: digits.drop point.toNat
  else
    digits ++ zeros (point.toNat - digits.length) ++ style.wholeMark

/-- An exponent with its sign and at least the width of the style. -/
def exponent (style : NumberStyle) (value : Int) : Text :=
  let digits := digitsOfNat value.natAbs
  (if value < 0 then Byte.minus else Byte.plus) ::
    zeros (style.exponentWidth - digits.length) ++ digits

/-- Digits with the point behind the first of them and an exponent. -/
def scientific (style : NumberStyle) (digits : Text) (point : Int) : Text :=
  digits.take 1 ++ (if digits.length ≤ 1 then [] else Byte.point :: digits.drop 1) ++
    0x65 :: style.exponent (point - 1)

/-- Digits in the form that the place of their point asks for. -/
def layout (style : NumberStyle) (digits : Text) (point : Int) : Text :=
  if style.leastPoint ≤ point ∧ point ≤ style.greatestPoint then style.positional digits point
  else style.scientific digits point

/-- A positive decimal in a style. -/
def decimal (style : NumberStyle) (decimal : Decimal) : Text :=
  style.layout decimal.digits decimal.point

/-- A number in a style, given the texts of the magnitudes other than zero. -/
def writeBy (style : NumberStyle) (magnitudeText : Magnitude → Text) : Double → Text
  | .nan => style.notANumber
  | .infinite negative => (if negative then [Byte.minus] else []) ++ style.infinity
  | .finite negative magnitude =>
    if magnitude = .zero then if negative then style.negativeZero else style.zero
    else (if negative then [Byte.minus] else []) ++ magnitudeText magnitude

/-- A number in a style. -/
def write (style : NumberStyle) : Double → Text :=
  style.writeBy fun magnitude => style.decimal (Decimal.shortest magnitude)

/-- The plain style: numbers are written positionally from `0.0001` to below `10 ^ 16`. -/
def plain : NumberStyle where
  leastPoint := -3
  greatestPoint := 16
  wholeMark := []
  exponentWidth := 2
  zero := "0"
  negativeZero := "-0"
  infinity := "inf"
  notANumber := "nan"

/-- The text of a positive number, laid out anew in another style. -/
def relay (style : NumberStyle) (text : Text) : Text :=
  style.layout (Significant.ofText text).digits (Significant.ofText text).point

end NumberStyle

end MessageForms
