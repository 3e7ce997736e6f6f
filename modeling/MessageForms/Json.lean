import MessageForms.Text
import MessageForms.Number.Double

/-!
# JSON values

A value is an atom, an array or an object. Whole numbers are kept apart from the numbers
that are written with a fraction or an exponent, and the members of an object keep their
order.
-/

namespace MessageForms

namespace Json

/-- A value without parts. -/
inductive Atom where
  | null
  | bool (value : Bool)
  | integer (value : Int)
  | real (value : Double)
  | string (text : Text)
deriving DecidableEq

end Json

/-- A JSON value. -/
inductive Json where
  | atom (value : Json.Atom)
  | array (items : List Json)
  | object (members : List (Text × Json))

namespace Json

/-- A string as a value. -/
@[match_pattern] abbrev string (text : Text) : Json := atom (.string text)

/-- The value without content. -/
@[match_pattern] abbrev null : Json := atom .null

/-- The text of a value that is a string. -/
def text? : Json → Option Text
  | string text => some text
  | _ => none

/-- The value of a member, if this is an object that has it. -/
def member? (name : Text) : Json → Option Json
  | object members => members.lookup name
  | _ => none

/-- The items of an array; no other value has items. -/
def items : Json → List Json
  | array items => items
  | _ => []

/-- Whether a value counts as given: null, false, zero and the empty string do not. -/
def isTruthy : Json → Bool
  | atom .null => false
  | atom (.bool value) => value
  | atom (.integer value) => value != 0
  | atom (.real value) => !(value.isNaN || value.equals .zero)
  | atom (.string text) => text != []
  | array _ | object _ => true

/-- The name of the kind of a value. -/
def kindName : Json → Text
  | atom .null => "null"
  | atom (.bool _) => "boolean"
  | atom (.integer _) | atom (.real _) => "number"
  | atom (.string _) => "string"
  | array _ => "array"
  | object _ => "object"

end Json

end MessageForms
