import MessageForms.Json
import MessageForms.Number.Layout
import MessageForms.Text.Utf8

/-!
# JSON tokens

A JSON text is a sequence of tokens with blanks between them. Each token has one written
form, and `scan` recovers the tokens of a text one byte at a time. The blanks of JSON are
space, tab, line feed and carriage return only.
-/

namespace MessageForms

namespace Json

/-- A token of a JSON text. -/
inductive Token where
  | openArray
  | closeArray
  | openObject
  | closeObject
  | colon
  | comma
  | atom (value : Atom)
deriving DecidableEq

/-- Numbers with a fraction or an exponent always show that they are no integers, and have
at least two digits in an exponent. -/
def realStyle : NumberStyle where
  leastPoint := -3
  greatestPoint := 15
  wholeMark := ".0"
  exponentWidth := 2
  zero := "0.0"
  negativeZero := "-0.0"
  infinity := "null"
  notANumber := "null"

/-- The written form of one byte inside a string. -/
def escapeByte (byte : Byte) : Text :=
  if byte = Byte.quote then [Byte.backslash, Byte.quote]
  else if byte = Byte.backslash then [Byte.backslash, Byte.backslash]
  else if byte = 0x08 then [Byte.backslash, 0x62]
  else if byte = 0x0C then [Byte.backslash, 0x66]
  else if byte = Byte.lineFeed then [Byte.backslash, 0x6E]
  else if byte = Byte.carriageReturn then [Byte.backslash, 0x72]
  else if byte = Byte.tab then [Byte.backslash, 0x74]
  else if byte < 0x20 then
    [Byte.backslash, 0x75, Byte.zero, Byte.zero, Byte.ofHexValue (byte.toNat / 16),
      Byte.ofHexValue (byte.toNat % 16)]
  else [byte]

/-- A string in quotes. Ill-formed UTF-8 is replaced, so what is written is always valid. -/
def quoted (text : Text) : Text :=
  Byte.quote :: (Utf8.repair text).flatMap escapeByte ++ [Byte.quote]

/-- The written form of an atom. A real number has the fewest digits that are read as it again,
and one without a finite value is written as null. A writer that keeps off the ends of the
rounding interval can need more digits, as in `9.999999999999999e+22` for `1e+23`; nothing that
is proved depends on the digits of a real number. -/
def Atom.write : Atom → Text
  | .null => "null"
  | .bool value => Text.ofBool value
  | .integer value => textOfInt value
  | .real (.finite negative magnitude) => realStyle.write (.finite negative magnitude)
  | .real _ => "null"
  | .string text => quoted text

/-- The written form of a token. -/
def Token.write : Token → Text
  | .openArray => [Byte.openBracket]
  | .closeArray => [Byte.closeBracket]
  | .openObject => [Byte.openBrace]
  | .closeObject => [Byte.closeBrace]
  | .colon => [Byte.colon]
  | .comma => [Byte.comma]
  | .atom value => value.write

/-- Whether the digits before the point and what follows them begin a JSON number: there is
a digit, no leading zero, and a digit after a point. -/
def beginsNumber (text : Text) : Bool :=
  let whole := text.takeWhile Byte.isDigit
  let rest := text.dropWhile Byte.isDigit
  whole != [] && (whole.length == 1 || whole.head? != some Byte.zero) &&
    (rest.head? != some Byte.point || rest.tail.head?.any Byte.isDigit)

/-- Reads a number. Without fraction and exponent it is an integer if it fits 64 bits,
signed if it is negative and unsigned otherwise; every other number is rounded, and must
be finite. -/
def Atom.ofNumber? (text : Text) : Option Atom :=
  let negative := text.head? = some Byte.minus
  let unsigned := if negative then text.tail else text
  if beginsNumber unsigned then
    let value := natOfDigits unsigned
    let bound := if negative then 0x8000000000000001 else 0x10000000000000000
    if unsigned.all Byte.isDigit ∧ value < bound then
      some (.integer (if negative then -(value : Int) else value))
    else
      (Decimal.read? unsigned).bind fun decimal =>
        match decimal.toDouble negative with
        | .finite negative magnitude => some (.real (.finite negative magnitude))
        | _ => none
  else none

/-- Reads one of the three names. -/
def Atom.ofName? (name : Text) : Option Atom :=
  if name = "null" then some .null
  else if name = "true" then some (.bool true)
  else if name = "false" then some (.bool false)
  else none

/-- What a scanner is in the middle of. The characters of an unfinished token are kept
latest first. -/
inductive Scanner where
  /-- Between two tokens. -/
  | between
  /-- In a name. -/
  | name (letters : Text)
  /-- In a number. -/
  | number (characters : Text)
  /-- In a string. -/
  | string (content : Text)
  /-- After a backslash in a string. -/
  | escape (content : Text)
  /-- In the four digits of a numbered character; `high` is the first half of a surrogate
  pair whose second half is being read. -/
  | codePoint (content : Text) (high : Option Nat) (value : Nat) (missing : Nat)
  /-- After the first half of a surrogate pair, where a backslash must follow. -/
  | pairBackslash (content : Text) (high : Nat)
  /-- After the backslash of the second half of a surrogate pair. -/
  | pairLetter (content : Text) (high : Nat)

namespace Scanner

/-- Whether a byte may continue a number. -/
def isNumberByte (byte : Byte) : Bool :=
  byte.isDigit || byte == Byte.plus || byte == Byte.minus || byte == Byte.point ||
    byte.toLower == 0x65

/-- The first byte of a token, or a blank. A NUL byte is neither; where it ends the document, it
is cut off before the text is scanned. -/
def start (byte : Byte) : Option (Scanner × List Token) :=
  if byte = Byte.space ∨ byte = Byte.tab ∨ byte = Byte.lineFeed ∨ byte = Byte.carriageReturn then
    some (between, [])
  else if byte = Byte.openBracket then some (between, [.openArray])
  else if byte = Byte.closeBracket then some (between, [.closeArray])
  else if byte = Byte.openBrace then some (between, [.openObject])
  else if byte = Byte.closeBrace then some (between, [.closeObject])
  else if byte = Byte.colon then some (between, [.colon])
  else if byte = Byte.comma then some (between, [.comma])
  else if byte = Byte.quote then some (string [], [])
  else if byte = Byte.minus ∨ byte.isDigit then some (number [byte], [])
  else if byte.isLetter then some (name [byte], [])
  else none

/-- The character that a one-letter escape stands for. -/
def unescape? (letter : Byte) : Option Byte :=
  if letter = Byte.quote ∨ letter = Byte.backslash ∨ letter = Byte.slash then some letter
  else if letter = 0x62 then some 0x08
  else if letter = 0x66 then some 0x0C
  else if letter = 0x6E then some Byte.lineFeed
  else if letter = 0x72 then some Byte.carriageReturn
  else if letter = 0x74 then some Byte.tab
  else none

/-- Ends a numbered character. The halves of a surrogate pair give one character together
and none alone. -/
def endCodePoint (content : Text) (high : Option Nat) (value : Nat) : Option Scanner :=
  let isHigh := 0xD800 ≤ value ∧ value < 0xDC00
  let isLow := 0xDC00 ≤ value ∧ value < 0xE000
  match high with
  | some high =>
    if isLow then
      some (string ((Utf8.encode (0x10000 + (high - 0xD800) * 0x400 + (value - 0xDC00))).reverse
        ++ content))
    else none
  | none =>
    if isHigh then some (pairBackslash content value)
    else if isLow then none
    else some (string ((Utf8.encode value).reverse ++ content))

/-- One more byte: what the scanner is then in the middle of, and the tokens that ended. -/
def step : Scanner → Byte → Option (Scanner × List Token)
  | between, byte => start byte
  | name letters, byte =>
    if byte.isLetter then some (name (byte :: letters), [])
    else do
      let atom ← Atom.ofName? letters.reverse
      let (scanner, tokens) ← start byte
      some (scanner, .atom atom :: tokens)
  | number characters, byte =>
    if isNumberByte byte then some (number (byte :: characters), [])
    else do
      let atom ← Atom.ofNumber? characters.reverse
      let (scanner, tokens) ← start byte
      some (scanner, .atom atom :: tokens)
  | string content, byte =>
    if byte = Byte.quote then some (between, [.atom (.string content.reverse)])
    else if byte = Byte.backslash then some (escape content, [])
    else if byte < 0x20 then none
    else some (string (byte :: content), [])
  | escape content, byte =>
    if byte = 0x75 then some (codePoint content none 0 4, [])
    else (unescape? byte).map fun character => (string (character :: content), [])
  | codePoint content high value missing, byte =>
    match byte.hexValue? with
    | none => none
    | some digit =>
      let value := 16 * value + digit
      if missing ≤ 1 then (endCodePoint content high value).map fun scanner => (scanner, [])
      else some (codePoint content high value (missing - 1), [])
  | pairBackslash content high, byte =>
    if byte = Byte.backslash then some (pairLetter content high, []) else none
  | pairLetter content high, byte =>
    if byte = 0x75 then some (codePoint content (some high) 0 4, []) else none

/-- The tokens that the end of the text ends; a string cannot end there. -/
def finish : Scanner → Option (List Token)
  | between => some []
  | name letters => (Atom.ofName? letters.reverse).map fun atom => [.atom atom]
  | number characters => (Atom.ofNumber? characters.reverse).map fun atom => [.atom atom]
  | _ => none

end Scanner

/-- One more byte for a scanner that keeps the tokens it has found, latest first. -/
def advance (progress : Scanner × List Token) (byte : Byte) : Option (Scanner × List Token) := do
  let (scanner, ended) ← progress.1.step byte
  some (scanner, ended.reverse ++ progress.2)

/-- The tokens of a text, if it consists of tokens. -/
def scan (text : Text) : Option (List Token) := do
  let (scanner, found) ← text.foldlM advance (.between, [])
  let last ← scanner.finish
  some (found.reverse ++ last)

end Json

end MessageForms
