import MessageForms.Dictionary
import MessageForms.Traced

/-!
# Declarations

A declaration names a value that a variant selects on. It has one of two written forms,

    input <name>
    local <name> = <source>: <transform> [<key>=<value> ...]

and every other text is kept as it stands, with a report of what is wrong with it.
-/

namespace MessageForms

/-- A value that is derived from the parameter `source`. -/
structure Derivation where
  name : Text
  source : Text
  transform : Text
  options : Dictionary Text
deriving DecidableEq

/-- A declaration. -/
inductive Declaration where
  /-- A parameter, taken as it is. -/
  | input (name : Text)
  /-- A value derived from a parameter. -/
  | derived (derivation : Derivation)
  /-- A text in neither form. -/
  | unknown (text : Text)
deriving DecidableEq

namespace Declaration

/-- How the declaration of an input begins. -/
def inputWord : Text := "input "

/-- How the declaration of a derived value begins. -/
def localWord : Text := "local "

/-- The option that a word spells: a key and a value, neither empty, with an equals sign
between them. A second equals sign ends the value. -/
def option? (word : Text) : Option (Text × Text) :=
  match Text.after? Byte.equals word with
  | none => none
  | some rest =>
    let key := Text.before Byte.equals word
    let value := Text.before Byte.equals rest
    if key = [] ∨ value = [] then none else some (key, value)

/-- The transform and its options; words that are no options are passed over. -/
def ofWords (name source : Text) (words : List Text) : Derivation :=
  ⟨name, source, words.headD [], Dictionary.ofList (words.tail.filterMap option?)⟩

/-- Reads what follows the word `local`, without the blanks around it. -/
def parseDerivation (text : Text) : Except DeclarationFault Derivation :=
  match Text.after? Byte.equals text with
  | none => .error .missingEquals
  | some rest =>
    let rest := rest.trim
    match Text.after? Byte.colon rest with
    | none => .error .missingColon
    | some application =>
      .ok (ofWords (Text.before Byte.equals text).trim (Text.before Byte.colon rest).trim
        (Text.words application))

/-- Reads a declaration, or says what keeps the text from being one. -/
def parse? (text : Text) : Except DeclarationFault Declaration :=
  match Text.following? inputWord text with
  | some rest =>
    if rest.trim = [] then .error .missingInputName else .ok (input rest.trim)
  | none =>
    match Text.following? localWord text with
    | some rest => (parseDerivation rest.trim).map derived
    | none => .error .unknownFormat

/-- Reads a declaration. A text in neither form is kept, and reported. -/
def parse (text : Text) : Traced Declaration :=
  match parse? text with
  | .ok declaration => pure declaration
  | .error fault => do
    Traced.report (.invalidDeclaration fault text)
    pure (unknown text)

/-- Reads a list of declarations without its empty texts. -/
def parseAll (texts : List Text) : Traced (List Declaration) :=
  Traced.all ((texts.filter (· != [])).map parse)

/-- The text of a declaration. -/
def write : Declaration → Text
  | input name => inputWord ++ name
  | derived derivation =>
    localWord ++ derivation.name ++ Text.ofString " = " ++ derivation.source ++
      Text.ofString ": " ++ derivation.transform ++
      derivation.options.entries.flatMap fun entry =>
        Byte.space :: entry.1 ++ Byte.equals :: entry.2
  | unknown text => text

/-- The name that a declaration binds. -/
def name? : Declaration → Option Text
  | input name => some name
  | derived derivation => some derivation.name
  | unknown _ => none

/-- The index of the first declaration that binds a name. -/
def findIndex? (declarations : List Declaration) (name : Text) : Option Nat :=
  declarations.findIdx? fun declaration => declaration.name? == some name

/-- The first declaration that binds a name. -/
def find? (declarations : List Declaration) (name : Text) : Option Declaration :=
  declarations.find? fun declaration => declaration.name? == some name

end Declaration

end MessageForms
