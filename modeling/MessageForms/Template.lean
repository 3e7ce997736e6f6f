import MessageForms.Param

/-!
# Templates

A template is text with placeholders: names of ASCII letters, digits and low lines in
braces. Substitution replaces the placeholders whose names are bound, all at once, and
keeps everything else.
-/

namespace MessageForms

namespace Template

/-- A piece of a template. -/
inductive Piece where
  | literal (byte : Byte)
  | placeholder (name : Text)
deriving DecidableEq

/-- The name of the placeholder that an opening brace begins, given what follows it. -/
def name? (rest : Text) : Option Text :=
  let name := rest.takeWhile Byte.isWord
  if name ≠ [] ∧ (rest.drop name.length).head? = some Byte.closeBrace then some name else none

/-- The pieces of a text after the bytes that belong to a placeholder already found. -/
def piecesFrom : Nat → Text → List Piece
  | _, [] => []
  | covered + 1, _ :: rest => piecesFrom covered rest
  | 0, byte :: rest =>
    if byte = Byte.openBrace then
      match name? rest with
      | some name => .placeholder name :: piecesFrom (name.length + 1) rest
      | none => .literal byte :: piecesFrom 0 rest
    else .literal byte :: piecesFrom 0 rest

/-- The pieces of a template. A brace that begins no placeholder is text. -/
def pieces (template : Text) : List Piece :=
  piecesFrom 0 template

/-- What a piece becomes. -/
def Piece.fill (params : Params) : Piece → Text
  | literal byte => [byte]
  | placeholder name =>
    match params.find? name with
    | some value => value.toText
    | none => Byte.openBrace :: name ++ [Byte.closeBrace]

/-- A template with its bound placeholders replaced by the texts of their parameters. -/
def substitute (template : Text) (params : Params) : Text :=
  (pieces template).flatMap (Piece.fill params)

end Template

end MessageForms
