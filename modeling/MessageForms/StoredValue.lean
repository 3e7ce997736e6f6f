import MessageForms.Json.Document
import MessageForms.Variant

/-!
# Stored values

A stored value is a text: a plain template, or a variant in its written form

    [{"declarations": [...], "selectors": [...], "match": {"key": "template", ...}}]

Every value that lacks this form is a plain template. Within it, what is malformed is
dropped or degraded with a report. Where the document in a text ends is left to the JSON
reader; a value that arrives as a terminated text is read the same either way.
-/

namespace MessageForms

namespace Variant

/-- How the written form of a variant begins, after blanks. -/
def opening : Text := [Byte.openBracket, Byte.openBrace]

/-- The member that holds the declarations. -/
def declarationsName : Text := "declarations"

/-- The member that holds the selectors. -/
def selectorsName : Text := "selectors"

/-- The member that holds the table. -/
def matchName : Text := "match"

/-- Reads the declarations of a list; entries that are not strings are dropped. -/
def declarationsOfJson (json : Json) : Traced (List Declaration) :=
  Declaration.parseAll (json.items.filterMap Json.text?)

/-- The selectors of a list; entries that are not strings, and empty ones, are dropped. -/
def selectorsOfJson (json : Json) : List Text :=
  (json.items.filterMap Json.text?).filter (· != [])

/-- The template of a member of the table: a string is its own, null is empty, and every
other value is written out. -/
def templateOfJson : Json → Text
  | .string text => text
  | .null => []
  | json => json.write

/-- Reads the table; one that is not an object is reported and read as empty. -/
def tableOfJson : Json → Traced MatchTable
  | .object members => pure (members.map fun entry => (entry.1, templateOfJson entry.2))
  | json => do
    Traced.report (.matchNotObject json.kindName)
    pure []

/-- Reads a variant, given the object that holds it and its table. -/
def ofMembers (json table : Json) : Traced Variant := do
  let declarations ← declarationsOfJson ((json.member? declarationsName).getD .null)
  let table ← tableOfJson table
  pure ⟨declarations, selectorsOfJson ((json.member? selectorsName).getD .null), table⟩

/-- Reads a variant from a list whose first item is an object with a table. -/
def ofWrapped? (json : Json) : Traced (Option Variant) :=
  match json.items with
  | [] => pure none
  | first :: _ =>
    match first.member? matchName with
    | none => pure none
    | some table =>
      if table.isTruthy then do
        let variant ← ofMembers first table
        pure (some variant)
      else pure none

/-- Reads a variant from a text, which must look like one and hold a well-formed document. -/
def ofText? (text : Text) (ending : Json.Ending := .withText) : Traced (Option Variant) :=
  if text.trim.startsWith opening then
    match Json.read? text ending with
    | some json => ofWrapped? json
    | none => pure none
  else pure none

/-- Reads a variant from a value, which may also be a string with the written form. -/
def ofJson? (json : Json) (ending : Json.Ending := .withText) : Traced (Option Variant) :=
  match json with
  | .string text => ofText? text ending
  | json => ofWrapped? json

/-- The value that stores a variant. Empty declarations and selectors are left out; of
entries with the same key the first place and the last template are kept. -/
def toJson (variant : Variant) : Json :=
  let strings (texts : List Text) : Json := .array (texts.map Json.string)
  let declarations :=
    if variant.declarations = [] then []
    else [(declarationsName, strings (variant.declarations.map Declaration.write))]
  let selectors :=
    if variant.selectors = [] then [] else [(selectorsName, strings variant.selectors)]
  let table :=
    Json.object (Entries.merge (variant.table.map fun entry => (entry.1, Json.string entry.2)))
  .array [.object (declarations ++ selectors ++ [(matchName, table)])]

/-- The written form of a variant. -/
def encode (variant : Variant) : Text :=
  variant.toJson.write

end Variant

namespace StoredValue

/-- Renders a stored value: a variant by its active entry, a plain template by
substitution. -/
def render (value : Text) (setting : Setting) (ending : Json.Ending := .withText) :
    Traced Text :=
  if value = [] then pure []
  else do
    let variant ← Variant.ofText? value ending
    match variant with
    | some variant => variant.render setting
    | none => pure (Template.substitute value setting.params)

end StoredValue

end MessageForms
