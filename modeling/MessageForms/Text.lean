import MessageForms.Byte

/-!
# Texts

A text is a list of bytes, which need not be valid UTF-8. This module holds the ways in
which the notations of this library take texts apart: trimming, splitting at a separator,
cutting at a byte, and reading the words between blanks.
-/

namespace MessageForms

/-- A text as the bytes of its encoding. -/
abbrev Text := List Byte

namespace Text

/-- The UTF-8 bytes of a string. -/
def ofString (string : String) : Text :=
  string.toList.flatMap String.utf8EncodeChar

instance : Coe String Text := ⟨ofString⟩

/-- A text with the blanks at its beginning removed. -/
def trimStart (text : Text) : Text :=
  text.dropWhile Byte.isBlank

/-- A text with the blanks at its end removed. -/
def trimEnd (text : Text) : Text :=
  (text.reverse.dropWhile Byte.isBlank).reverse

/-- A text with the blanks at both ends removed. -/
def trim (text : Text) : Text :=
  trimEnd (trimStart text)

/-- The text before the first separator, and the parts that follow it. -/
def firstPart (separator : Byte) : Text → Text × List Text
  | [] => ([], [])
  | byte :: rest =>
    let (part, parts) := firstPart separator rest
    if byte = separator then ([], part :: parts) else (byte :: part, parts)

/-- The parts of a text between its separators; a text without one is its only part. -/
def split (separator : Byte) (text : Text) : List Text :=
  (firstPart separator text).1 :: (firstPart separator text).2

/-- The text before the first occurrence of a byte, or all of it if there is none. -/
def before (mark : Byte) (text : Text) : Text :=
  text.takeWhile (· != mark)

/-- The text after the first occurrence of a byte, if there is one. -/
def after? (mark : Byte) (text : Text) : Option Text :=
  match text.dropWhile (· != mark) with
  | [] => none
  | _ :: rest => some rest

/-- What follows a given beginning, if the text has that beginning. -/
def following? : Text → Text → Option Text
  | [], text => some text
  | _ :: _, [] => none
  | expected :: beginning, byte :: rest =>
    if expected = byte then following? beginning rest else none

/-- The word at the very beginning of a text, empty if a blank or nothing stands there, and
the words after it. -/
def firstWord : Text → Text × List Text
  | [] => ([], [])
  | byte :: rest =>
    let (word, words) := firstWord rest
    if Byte.isBlank byte then ([], if word = [] then words else word :: words)
    else (byte :: word, words)

/-- The words of a text: its longest runs of characters that are not blank. -/
def words (text : Text) : List Text :=
  let (word, words) := firstWord text
  if word = [] then words else word :: words

/-- A text as seen through a boundary at which a NUL byte ends it. -/
def untilNul (text : Text) : Text :=
  text.takeWhile (· != Byte.nul)

/-- Whether a text has a given beginning, which is a terminated text. -/
def startsWith (text beginning : Text) : Bool :=
  (following? beginning.untilNul text).isSome

/-- A text without the line feeds and carriage returns at its end. -/
def withoutLineEnd (text : Text) : Text :=
  (text.reverse.dropWhile fun byte =>
    byte == Byte.lineFeed || byte == Byte.carriageReturn).reverse

/-- A text filled up with spaces on the right to a width counted in bytes. -/
def padEnd (width : Nat) (text : Text) : Text :=
  text ++ List.replicate (width - text.length) Byte.space

/-- The text of a truth value. -/
def ofBool (flag : Bool) : Text :=
  if flag then "true" else "false"

end Text

end MessageForms
