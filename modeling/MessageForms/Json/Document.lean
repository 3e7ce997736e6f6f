import MessageForms.Entries
import MessageForms.Json.Token

/-!
# JSON documents

A document is written as the tokens of its value, and read by keeping the containers that
are still open. A key that an object repeats keeps its first place and takes its last
value. Readers differ in whether a NUL byte ends the document in a text, so both ways of
reading are kept, and the results of this library hold for both.
-/

namespace MessageForms

namespace Json

mutual

/-- The tokens of a value. Between the first token and the last one of an array or an object
stand its parts, of which only the first has no comma before it. -/
def tokens : Json → List Token
  | atom value => [.atom value]
  | array items => .openArray :: (itemTokens items).tail ++ [.closeArray]
  | object members => .openObject :: (memberTokens members).tail ++ [.closeObject]
termination_by structural json => json

/-- The tokens of items with a comma before each. -/
def itemTokens : List Json → List Token
  | [] => []
  | item :: rest => .comma :: tokens item ++ itemTokens rest
termination_by structural items => items

/-- The tokens of members with a comma before each. -/
def memberTokens : List (Text × Json) → List Token
  | [] => []
  | member :: rest => .comma :: pairTokens member ++ memberTokens rest
termination_by structural members => members

/-- The tokens of one member. -/
def pairTokens : Text × Json → List Token
  | (name, value) => .atom (.string name) :: .colon :: tokens value
termination_by structural member => member

end

/-- The text of a value, without blanks between its tokens. -/
def write (json : Json) : Text :=
  json.tokens.flatMap Token.write

/-- A container whose end has not been read. -/
inductive Container where
  /-- An array with the items read so far, latest first. -/
  | array (items : List Json)
  /-- An object with the members read so far and the name of the member being read. -/
  | object (members : List (Text × Json)) (key : Text)

/-- What a reader expects next; `outer` are the open containers, innermost first. -/
inductive Reader where
  /-- A value. -/
  | value (outer : List Container)
  /-- The first item or the end of an array. -/
  | firstItem (outer : List Container)
  /-- A comma or the end of an array. -/
  | nextItem (items : List Json) (outer : List Container)
  /-- The first name or the end of an object. -/
  | firstName (outer : List Container)
  /-- The name of a further member. -/
  | name (members : List (Text × Json)) (outer : List Container)
  /-- The colon after a name. -/
  | colon (members : List (Text × Json)) (key : Text) (outer : List Container)
  /-- A comma or the end of an object. -/
  | nextMember (members : List (Text × Json)) (outer : List Container)
  /-- Nothing more: the value of the document is complete. -/
  | done (json : Json)

namespace Reader

/-- What is expected after a complete value. -/
def close (json : Json) : List Container → Reader
  | [] => done json
  | .array items :: outer => nextItem (json :: items) outer
  | .object members key :: outer => nextMember (Entries.put key json members) outer

/-- What is expected after the first token of a value. -/
def opening (outer : List Container) : Token → Option Reader
  | .atom content => some (close (Json.atom content) outer)
  | .openArray => some (firstItem outer)
  | .openObject => some (firstName outer)
  | _ => none

/-- What is expected after one more token. -/
def step : Reader → Token → Option Reader
  | value outer, token => opening outer token
  | firstItem outer, .closeArray => some (close (Json.array []) outer)
  | firstItem outer, token => opening (.array [] :: outer) token
  | nextItem items outer, .comma => some (value (.array items :: outer))
  | nextItem items outer, .closeArray => some (close (Json.array items.reverse) outer)
  | firstName outer, .closeObject => some (close (Json.object []) outer)
  | firstName outer, .atom (.string text) => some (colon [] text outer)
  | name members outer, .atom (.string text) => some (colon members text outer)
  | colon members text outer, .colon => some (value (.object members text :: outer))
  | nextMember members outer, .comma => some (name members outer)
  | nextMember members outer, .closeObject => some (close (Json.object members) outer)
  | _, _ => none

end Reader

/-- The value that a sequence of tokens spells, if it spells one. -/
def ofTokens? (tokens : List Token) : Option Json :=
  match tokens.foldlM Reader.step (.value []) with
  | some (.done json) => some json
  | _ => none

/-- Where the document in a text ends. No token has a NUL byte in it, so a reader may take one
for the end of the document, whatever follows it, or for a fault like every other byte that
begins no token. -/
inductive Ending where
  /-- With the text. -/
  | withText
  /-- Before the first NUL byte, or with the text if it has none. -/
  | atNul
deriving DecidableEq

/-- The part of a text that is read as the document. -/
def Ending.document : Ending → Text → Text
  | withText, text => text
  | atNul, text => text.untilNul

/-- Reads a document: well-formed UTF-8 that consists of the tokens of one value. -/
def read? (text : Text) (ending : Ending := .withText) : Option Json :=
  let document := ending.document text
  if Utf8.isValid document then (scan document).bind ofTokens? else none

end Json

end MessageForms
