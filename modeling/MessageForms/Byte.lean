/-!
# ASCII bytes

The bytes to which the notations of this library give a meaning, and their classes. Every
notation here is cut at ASCII bytes only, so a byte of a longer UTF-8 sequence is always an
ordinary byte.
-/

namespace MessageForms

/-- An eight-bit unit of text. -/
abbrev Byte := UInt8

namespace Byte

/-- The byte that ends a text at a terminated boundary. -/
@[match_pattern] abbrev nul : Byte := 0x00

/-- Horizontal tabulation. -/
@[match_pattern] abbrev tab : Byte := 0x09

/-- Line feed. -/
@[match_pattern] abbrev lineFeed : Byte := 0x0A

/-- Carriage return. -/
@[match_pattern] abbrev carriageReturn : Byte := 0x0D

/-- The space. -/
@[match_pattern] abbrev space : Byte := 0x20

/-- The double quotation mark. -/
@[match_pattern] abbrev quote : Byte := 0x22

/-- The opening parenthesis. -/
@[match_pattern] abbrev openParen : Byte := 0x28

/-- The closing parenthesis. -/
@[match_pattern] abbrev closeParen : Byte := 0x29

/-- The asterisk. -/
@[match_pattern] abbrev star : Byte := 0x2A

/-- The plus sign. -/
@[match_pattern] abbrev plus : Byte := 0x2B

/-- The comma. -/
@[match_pattern] abbrev comma : Byte := 0x2C

/-- The hyphen, which is also the minus sign. -/
@[match_pattern] abbrev minus : Byte := 0x2D

/-- The full stop, which is also the decimal point. -/
@[match_pattern] abbrev point : Byte := 0x2E

/-- The solidus. -/
@[match_pattern] abbrev slash : Byte := 0x2F

/-- The digit zero. -/
@[match_pattern] abbrev zero : Byte := 0x30

/-- The colon. -/
@[match_pattern] abbrev colon : Byte := 0x3A

/-- The equals sign. -/
@[match_pattern] abbrev equals : Byte := 0x3D

/-- The opening square bracket. -/
@[match_pattern] abbrev openBracket : Byte := 0x5B

/-- The backslash. -/
@[match_pattern] abbrev backslash : Byte := 0x5C

/-- The closing square bracket. -/
@[match_pattern] abbrev closeBracket : Byte := 0x5D

/-- The low line. -/
@[match_pattern] abbrev underscore : Byte := 0x5F

/-- The opening brace. -/
@[match_pattern] abbrev openBrace : Byte := 0x7B

/-- The closing brace. -/
@[match_pattern] abbrev closeBrace : Byte := 0x7D

/-- The six blank characters: space, tab, line feed, vertical tab, form feed and carriage
return. -/
def isBlank (byte : Byte) : Bool :=
  byte == space || (tab ≤ byte && byte ≤ carriageReturn)

/-- The digits `0` to `9`. -/
def isDigit (byte : Byte) : Bool :=
  zero ≤ byte && byte ≤ 0x39

/-- The ASCII letters of either case. -/
def isLetter (byte : Byte) : Bool :=
  (0x41 ≤ byte && byte ≤ 0x5A) || (0x61 ≤ byte && byte ≤ 0x7A)

/-- The characters of a placeholder name: ASCII letters, digits and the low line. -/
def isWord (byte : Byte) : Bool :=
  isLetter byte || isDigit byte || byte == underscore

/-- The bytes that stand for a character of their own. -/
def isAscii (byte : Byte) : Bool :=
  byte < 0x80

/-- The lower-case form of an ASCII letter; every other byte stays. -/
def toLower (byte : Byte) : Byte :=
  if 0x41 ≤ byte && byte ≤ 0x5A then byte + 0x20 else byte

/-- The value of a decimal digit. -/
def digitValue (byte : Byte) : Nat :=
  byte.toNat - zero.toNat

/-- The decimal digit of a value below ten. -/
def ofDigit (value : Nat) : Byte :=
  UInt8.ofNat (zero.toNat + value)

/-- The value of a hexadecimal digit of either case. -/
def hexValue? (byte : Byte) : Option Nat :=
  if isDigit byte then some (digitValue byte)
  else if 0x61 ≤ byte && byte ≤ 0x66 then some (byte.toNat - 0x61 + 10)
  else if 0x41 ≤ byte && byte ≤ 0x46 then some (byte.toNat - 0x41 + 10)
  else none

/-- The lower-case hexadecimal digit of a value below sixteen. -/
def ofHexValue (value : Nat) : Byte :=
  if value < 10 then ofDigit value else UInt8.ofNat (0x61 + (value - 10))

end Byte

end MessageForms
