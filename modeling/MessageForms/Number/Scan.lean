import MessageForms.Number.Decimal

/-!
# Numbers at the beginning of texts

A text may begin with a number in one of several notations: after blanks and a sign a decimal, a
hexadecimal number with a binary exponent, an infinity or a NaN, in either case of letters. The
longest of them is read, and what follows it is left.
-/

namespace MessageForms

namespace Double

/-- The number with a sign nearest to a significand times a power of two. A number far
outside the finite range is decided without computing its power. -/
def scaledByTwo (negative : Bool) (significand : Nat) (exponent : Int) : Double :=
  if significand = 0 then .finite negative .zero
  else
    let magnitude := significand.log2 + exponent
    if 1100 < magnitude then .infinite negative
    else if magnitude < -1200 then .finite negative .zero
    else
      let (numerator, denominator) := scaled 2 significand exponent
      .ofQuotient negative numerator denominator

/-- Whether a byte is a hexadecimal digit. -/
def isHexDigit (byte : Byte) : Bool :=
  byte.hexValue?.isSome

/-- The value of a run of hexadecimal digits. -/
def natOfHex (digits : Text) : Nat :=
  digits.foldl (fun value digit => 16 * value + digit.hexValue?.getD 0) 0

/-- Reads a hexadecimal number: `0x`, hexadecimal digits with an optional point, and an optional
binary exponent. Each digit of the fraction counts four binary places. -/
def scanHexadecimal? (negative : Bool) (text : Text) : Option (Double × Text) :=
  if (text.take 2).map Byte.toLower = "0x" then
    (scanMantissa? isHexDigit (text.drop 2)).map fun (whole, fraction, rest) =>
      let (exponent, rest) := scanExponent 0x70 rest
      (scaledByTwo negative (natOfHex (whole ++ fraction)) (exponent - 4 * fraction.length), rest)
  else none

/-- What follows the word in parentheses that a text may begin with. -/
def afterWord (text : Text) : Text :=
  let rest := text.tail.dropWhile Byte.isWord
  if text.head? = some Byte.openParen ∧ rest.head? = some Byte.closeParen then rest.tail else text

/-- Reads the name of an infinity, or that of a NaN, which a word in parentheses may follow. -/
def scanName? (negative : Bool) (text : Text) : Option (Double × Text) :=
  if (text.take 8).map Byte.toLower = "infinity" then some (.infinite negative, text.drop 8)
  else if (text.take 3).map Byte.toLower = "inf" then some (.infinite negative, text.drop 3)
  else if (text.take 3).map Byte.toLower = "nan" then some (.nan, afterWord (text.drop 3))
  else none

/-- Reads the number that a text begins with, and what follows it. A NUL byte belongs to no
number, so a text may as well end there. -/
def scan? (text : Text) : Option (Double × Text) :=
  let (negative, unsigned) := cutSign text.trimStart
  (scanName? negative unsigned).or <| (scanHexadecimal? negative unsigned).or <|
    (Decimal.scan? unsigned).map fun (decimal, rest) => (decimal.toDouble negative, rest)

end Double

end MessageForms
