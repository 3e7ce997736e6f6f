import MessageForms.Text

/-!
# UTF-8

Well-formed UTF-8 is recognised one byte at a time. A position says what may follow: either
a new character, or the continuation bytes that the current character still lacks. The
first continuation byte is confined where a longer form, a surrogate or a number above the
last code point would otherwise be spelled.
-/

namespace MessageForms

namespace Utf8

/-- A place between two bytes of a text. -/
inductive Position where
  /-- Between two characters. -/
  | boundary
  /-- Inside a character: the next byte lies between `low` and `high`, and `more`
  continuation bytes follow it. -/
  | inside (low high : Byte) (more : Nat)
deriving DecidableEq, Repr

namespace Position

/-- The place after the first byte of a character. -/
def ofLead (byte : Byte) : Option Position :=
  if byte < 0x80 then some boundary
  else if 0xC2 ≤ byte ∧ byte ≤ 0xDF then some (inside 0x80 0xBF 0)
  else if byte = 0xE0 then some (inside 0xA0 0xBF 1)
  else if byte = 0xED then some (inside 0x80 0x9F 1)
  else if 0xE1 ≤ byte ∧ byte ≤ 0xEF then some (inside 0x80 0xBF 1)
  else if byte = 0xF0 then some (inside 0x90 0xBF 2)
  else if byte = 0xF4 then some (inside 0x80 0x8F 2)
  else if 0xF1 ≤ byte ∧ byte ≤ 0xF3 then some (inside 0x80 0xBF 2)
  else none

/-- The place after one more byte, if that byte may stand there. -/
def step : Position → Byte → Option Position
  | boundary, byte => ofLead byte
  | inside low high more, byte =>
    if low ≤ byte ∧ byte ≤ high then
      match more with
      | 0 => some boundary
      | more + 1 => some (inside 0x80 0xBF more)
    else none

/-- The place reached at the end of a text. -/
def run (position : Position) (text : Text) : Option Position :=
  text.foldlM step position

end Position

/-- Whether a text is well-formed UTF-8. -/
def isValid (text : Text) : Bool :=
  Position.boundary.run text = some .boundary

/-- The replacement character, which stands for bytes that are not well formed. -/
def replacement : Text := [0xEF, 0xBF, 0xBD]

/-- Repairs the rest of a text at a position whose character has begun with `held`. Bytes
that break a character off give one replacement for what was held, and are then read again
as the beginning of a character. -/
def repairFrom (position : Position) (held : Text) : Text → Text
  | [] => if held = [] then [] else replacement
  | byte :: rest =>
    match position.step byte with
    | some .boundary => held ++ byte :: repairFrom .boundary [] rest
    | some next => repairFrom next (held ++ [byte]) rest
    | none =>
      (if held = [] then [] else replacement) ++
        match Position.ofLead byte with
        | some .boundary => byte :: repairFrom .boundary [] rest
        | some next => repairFrom next [byte] rest
        | none => replacement ++ repairFrom .boundary [] rest

/-- A text with every ill-formed sequence replaced; a well-formed text is its own repair. -/
def repair (text : Text) : Text :=
  repairFrom .boundary [] text

/-- The bytes of a code point. -/
def encode (codePoint : Nat) : Text :=
  if codePoint < 0x80 then [UInt8.ofNat codePoint]
  else if codePoint < 0x800 then
    [UInt8.ofNat (0xC0 + codePoint / 0x40), UInt8.ofNat (0x80 + codePoint % 0x40)]
  else if codePoint < 0x10000 then
    [UInt8.ofNat (0xE0 + codePoint / 0x1000), UInt8.ofNat (0x80 + codePoint / 0x40 % 0x40),
      UInt8.ofNat (0x80 + codePoint % 0x40)]
  else
    [UInt8.ofNat (0xF0 + codePoint / 0x40000), UInt8.ofNat (0x80 + codePoint / 0x1000 % 0x40),
      UInt8.ofNat (0x80 + codePoint / 0x40 % 0x40), UInt8.ofNat (0x80 + codePoint % 0x40)]

end Utf8

end MessageForms
