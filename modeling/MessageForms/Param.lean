import MessageForms.Dictionary
import MessageForms.Number.Layout
import MessageForms.Number.Scan

/-!
# Parameters

A message is rendered with named parameters. A parameter is a text, a number or a truth
value; each has a text, which selectors compare and placeholders show, and a number, which
plural selectors categorize.
-/

namespace MessageForms

/-- The value of a parameter. -/
inductive ParamValue where
  | text (content : Text)
  | number (content : Double)
  | flag (content : Bool)
deriving DecidableEq

/-- The parameters by name. -/
abbrev Params := Dictionary ParamValue

namespace ParamValue

/-- Parameters are written positionally from `0.000001` to below `10 ^ 21`, whole numbers
without a point, and zero without a sign. -/
def numberStyle : NumberStyle where
  leastPoint := -5
  greatestPoint := 21
  wholeMark := []
  exponentWidth := 1
  zero := "0"
  negativeZero := "0"
  infinity := "Infinity"
  notANumber := "NaN"

/-- The text of a number, laid out anew from its plain one. -/
def writeNumber : Double → Text :=
  numberStyle.writeBy fun magnitude =>
    numberStyle.relay (NumberStyle.plain.write (.finite false magnitude))

/-- Whether a text without a sign begins as a decimal does: with a digit or a point, but not like a
hexadecimal number. -/
def beginsDecimal : Text → Bool
  | [] => false
  | first :: rest =>
    (Byte.isDigit first || first == Byte.point) &&
      !(first == Byte.zero && rest.head?.any fun byte => byte == 0x78 || byte == 0x58)

/-- Reads the number of a text between its outer blanks: nothing is zero, `Infinity` may have a
sign, and whatever else begins as a decimal must be a number as a whole. Every other text is no
number. -/
def readNumber (text : Text) : Double :=
  let spelled := text.trim
  if spelled = [] then .zero
  else
    let (negative, unsigned) := cutSign spelled
    if unsigned = "Infinity" then .infinite negative
    else if beginsDecimal unsigned then
      match Double.scan? spelled with
      | some (value, []) => value
      | _ => .nan
    else .nan

/-- The text of a value. -/
def toText : ParamValue → Text
  | text content => content
  | number content => writeNumber content
  | flag content => Text.ofBool content

/-- The number of a value. -/
def toNumber : ParamValue → Double
  | text content => readNumber content
  | number content => content
  | flag content => Double.ofBool content

/-- Equality of values: both the kind and the content agree, numbers numerically. -/
def equals : ParamValue → ParamValue → Bool
  | text left, text right => left == right
  | number left, number right => left.equals right
  | flag left, flag right => left == right
  | _, _ => false

end ParamValue

end MessageForms
