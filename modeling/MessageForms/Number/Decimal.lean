import MessageForms.Text
import MessageForms.Number.Double

/-!
# Decimals

A decimal is a coefficient times a power of ten. This module writes and reads digits, finds
the shortest decimal that identifies a magnitude, rounds a decimal to a number, and reads the
decimal that a text begins with.
-/

namespace MessageForms

/-- The digits of a natural number, most significant first and without leading zeros. -/
def digitsOfNat (value : Nat) : Text :=
  (Nat.toDigits 10 value).map fun digit => digit.toNat.toUInt8

/-- The natural number that a run of digits spells, leading zeros included. -/
def natOfDigits (digits : Text) : Nat :=
  digits.foldl (fun value digit => 10 * value + digit.digitValue) 0

/-- Whether a text begins with a minus sign, and what follows the sign that it may begin with. -/
def cutSign (text : Text) : Bool × Text :=
  if text.head? = some Byte.minus then (true, text.tail)
  else if text.head? = some Byte.plus then (false, text.tail)
  else (false, text)

/-- The digits that a text begins with, those before a point and those behind it, and what follows
them. There is a digit on either side of the point, or there is nothing to read. -/
def scanMantissa? (isDigit : Byte → Bool) (text : Text) : Option (Text × Text × Text) :=
  let whole := text.takeWhile isDigit
  let rest := text.dropWhile isDigit
  let hasPoint := rest.head? = some Byte.point
  let fraction := if hasPoint then rest.tail.takeWhile isDigit else []
  let rest := if hasPoint then rest.tail.dropWhile isDigit else rest
  if whole = [] ∧ fraction = [] then none else some (whole, fraction, rest)

/-- The exponent that a text begins with and what follows it: a letter of either case, an optional
sign and at least one digit. What is not all of this is left as it stands. -/
def scanExponent (letter : Byte) (text : Text) : Int × Text :=
  match text with
  | [] => (0, [])
  | mark :: rest =>
    let (negative, unsigned) := cutSign rest
    let digits := unsigned.takeWhile Byte.isDigit
    if Byte.toLower mark = letter ∧ digits ≠ [] then
      (if negative then -(natOfDigits digits : Int) else natOfDigits digits,
        unsigned.dropWhile Byte.isDigit)
    else (0, text)

/-- The text of an integer. -/
def textOfInt (value : Int) : Text :=
  (if value < 0 then [Byte.minus] else []) ++ digitsOfNat value.natAbs

/-- The non-negative number `coefficient * 10 ^ exponent`. -/
structure Decimal where
  coefficient : Nat
  exponent : Int
deriving DecidableEq, Repr

namespace Decimal

/-- The digits of the coefficient. -/
def digits (decimal : Decimal) : Text :=
  digitsOfNat decimal.coefficient

/-- The place of the decimal point counted from the left of the digits: the number is
`0.d₁d₂… * 10 ^ point`. -/
def point (decimal : Decimal) : Int :=
  decimal.digits.length + decimal.exponent

/-- The decimal as a quotient of naturals. -/
def quotient (decimal : Decimal) : Nat × Nat :=
  scaled 10 decimal.coefficient decimal.exponent

/-- Moves the zeros at the end of the coefficient into the exponent. Each step divides the
coefficient by ten, so as many steps suffice as it has binary digits. -/
def stripFrom : Nat → Nat → Int → Decimal
  | 0, coefficient, exponent => ⟨coefficient, exponent⟩
  | steps + 1, coefficient, exponent =>
    if coefficient % 10 = 0 ∧ coefficient ≠ 0 then
      stripFrom steps (coefficient / 10) (exponent + 1)
    else ⟨coefficient, exponent⟩

/-- The same number with a coefficient that does not end in zero. -/
def normalize (decimal : Decimal) : Decimal :=
  stripFrom (decimal.coefficient.log2 + 1) decimal.coefficient decimal.exponent

/-- The number nearest to a decimal with a sign. A decimal whose point lies outside the
range of the finite numbers is decided without computing its power of ten. -/
def toDouble (negative : Bool) (decimal : Decimal) : Double :=
  if decimal.coefficient = 0 then .finite negative .zero
  else if 310 < decimal.point then .infinite negative
  else if decimal.point < -330 then .finite negative .zero
  else
    let (numerator, denominator) := decimal.quotient
    Double.ofQuotient negative numerator denominator

/-- The exact decimal of a magnitude: a negative power of two is a power of five over the
same power of ten. -/
def exact (magnitude : Magnitude) : Decimal :=
  if 0 ≤ magnitude.exponent then
    ⟨magnitude.significand * Nat.pow 2 magnitude.exponent.toNat, 0⟩
  else
    ⟨magnitude.significand * Nat.pow 5 (-magnitude.exponent).toNat, magnitude.exponent⟩

/-- Whether a decimal rounds to a given magnitude. -/
def identifies (decimal : Decimal) (magnitude : Magnitude) : Bool :=
  decimal.toDouble false == .finite false magnitude

/-- The decimal with a given number of digits that rounds to a magnitude, given the exact
decimal. The two neighbours of the exact decimal on the grid of that many digits are tried,
the nearer one first and the even one first if both are equally near. -/
def withDigits? (magnitude : Magnitude) (exact : Decimal) (count : Nat) : Option Decimal :=
  let surplus := exact.digits.length - count
  let spacing := Nat.pow 10 surplus
  let below := exact.coefficient / spacing
  let twice := 2 * (exact.coefficient % spacing)
  let roundsUp := spacing < twice ∨ (spacing = twice ∧ below % 2 = 1)
  let near := if roundsUp then below + 1 else below
  let far := if roundsUp then below else below + 1
  let onGrid (coefficient : Nat) : Decimal := ⟨coefficient, exact.exponent + surplus⟩
  if (onGrid near).identifies magnitude then some (onGrid near)
  else if (onGrid far).identifies magnitude then some (onGrid far)
  else none

/-- The shortest decimal that rounds to a magnitude, and of those the nearest to it. The
exact decimal stands in if seventeen digits should not suffice. -/
def shortest (magnitude : Magnitude) : Decimal :=
  let exact := exact magnitude
  let found := (List.range' 1 17).findSome? (withDigits? magnitude exact)
  (found.getD exact).normalize

/-- Reads the unsigned decimal that a text begins with, and what follows it: digits with an
optional point and fraction, at least one digit on either side, and an optional exponent. -/
def scan? (text : Text) : Option (Decimal × Text) :=
  (scanMantissa? Byte.isDigit text).map fun (whole, fraction, rest) =>
    let (exponent, rest) := scanExponent 0x65 rest
    (⟨natOfDigits (whole ++ fraction), exponent - fraction.length⟩, rest)

/-- Reads the unsigned decimal that all of a text spells. -/
def read? (text : Text) : Option Decimal :=
  match scan? text with
  | some (decimal, []) => some decimal
  | _ => none

end Decimal

end MessageForms
