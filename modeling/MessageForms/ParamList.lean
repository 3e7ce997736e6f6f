import MessageForms.HostParams

/-!
# Lists of parameters

A list of parameters is filled name by name, and then passed on as an array. Each name has one
entry, at the place where the name was first set. An entry has a field for every kind of value,
and it is made blank whenever its name is set again, so that nothing is left of a value of
another kind.
-/

namespace MessageForms

/-- The kinds of values. -/
inductive ParamKind where
  | text
  | number
  | flag
deriving DecidableEq, Repr

/-- The tag of a kind in the parameters of a host. -/
def ParamKind.tag : ParamKind → Int
  | text => 0
  | number => 1
  | flag => 2

/-- An entry of a list of parameters. Its kind says which field holds the value. -/
structure ParamEntry where
  name : Text
  kind : ParamKind
  text : Text := []
  number : Double := .zero
  flag : Bool := false
deriving DecidableEq

/-- A list of parameters under construction. -/
abbrev ParamList := List ParamEntry

/-- A value as it may be given for a parameter. -/
inductive GivenValue where
  | text (content : Text)
  /-- A terminated text, which may be missing. -/
  | terminated (content? : Option Text)
  | number (content : Double)
  | integer (content : Int32)
  | flag (content : Bool)
deriving DecidableEq

/-- The value of a parameter for which a value is given. A missing text is empty, and an integer
is a number. -/
def GivenValue.value : GivenValue → ParamValue
  | text content => .text content
  | terminated content? => .text (content?.getD []).untilNul
  | number content => .number content
  | integer content => .number (.ofInt content.toInt)
  | flag content => .flag content

namespace ParamList

/-- Fills a blank entry of a kind: in place of the one with its name, or at the end if the name
is new. -/
def put (name : Text) (kind : ParamKind) (fill : ParamEntry → ParamEntry) :
    ParamList → ParamList
  | [] => [fill { name, kind }]
  | entry :: rest =>
    if entry.name = name then fill { name, kind } :: rest else entry :: put name kind fill rest

/-- Sets a parameter. -/
def set (list : ParamList) (name : Text) : ParamValue → ParamList
  | .text content => list.put name .text fun entry => { entry with text := content }
  | .number content => list.put name .number fun entry => { entry with number := content }
  | .flag content => list.put name .flag fun entry => { entry with flag := content }

/-- Sets a parameter to a given value. -/
def give (list : ParamList) (name : Text) (given : GivenValue) : ParamList :=
  list.set name given.value

/-- An entry as it is passed on. -/
def hostParam (entry : ParamEntry) : HostParam where
  name? := some entry.name
  kind := entry.kind.tag
  text? := some entry.text
  number := entry.number
  flag := if entry.flag then 1 else 0

/-- The parameters as they are passed on. -/
def toHost (list : ParamList) : HostParams :=
  ⟨some (list.map hostParam), list.length⟩

end ParamList

end MessageForms
