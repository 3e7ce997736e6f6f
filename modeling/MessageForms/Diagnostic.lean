import MessageForms.Failure
import MessageForms.Number.Layout
import MessageForms.Severity

/-!
# Diagnostics

Malformed data never stops a message from being rendered; it degrades the result and is
reported. This module holds everything the library may report, with its severity and its
message.
-/

namespace MessageForms

/-- What keeps a text from being a declaration. -/
inductive DeclarationFault where
  | missingInputName
  | missingEquals
  | missingColon
  | unknownFormat
deriving DecidableEq, Repr

/-- The wording of a fault. -/
def DeclarationFault.reason : DeclarationFault → Text
  | missingInputName => "missing input name"
  | missingEquals => "missing '='"
  | missingColon => "missing ':'"
  | unknownFormat => "unknown format"

/-- Something to report. -/
inductive Diagnostic where
  /-- A declaration that fits neither form. -/
  | invalidDeclaration (fault : DeclarationFault) (text : Text)
  /-- A match table that is not an object, with the kind that it is. -/
  | matchNotObject (kindName : Text)
  /-- A variant without entries. -/
  | emptyMatch
  /-- No entry fits, and the first one is used. -/
  | noMatchingEntry (firstKey : Text)
  /-- A declaration asks for a plural type that does not exist. -/
  | unknownPluralType (requested : Text) (declared : Text)
  /-- A categorizer gave no category for a number. -/
  | noPluralCategory (number : Double)
  /-- A request failed. -/
  | requestFailed (failure : Failure)
  /-- A message of the host. -/
  | note (severity : Severity) (message : Text)
deriving DecidableEq

namespace Diagnostic

/-- The severity of a report. Degraded data is worth a warning, a failed request an
error. -/
def severity : Diagnostic → Severity
  | requestFailed _ => .error
  | note severity _ => severity
  | _ => .warning

/-- The message of a report. -/
def message : Diagnostic → Text
  | invalidDeclaration fault text =>
    Text.ofString "Invalid declaration (" ++ fault.reason ++ Text.ofString "): '" ++ text ++
      Text.ofString "'"
  | matchNotObject kindName =>
    Text.ofString "Variant match is not an object (type " ++ kindName ++ Text.ofString ")"
  | emptyMatch => "Invalid variant: match table is missing or empty"
  | noMatchingEntry firstKey =>
    Text.ofString "No matching variant entry, falling back to '" ++ firstKey ++
      Text.ofString "'"
  | unknownPluralType requested declared =>
    Text.ofString "Unknown plural type '" ++ requested ++ Text.ofString "' on '" ++ declared ++
      Text.ofString "', using cardinal"
  | noPluralCategory number =>
    Text.ofString "Plural callback returned no category for " ++ NumberStyle.plain.write number
  | requestFailed failure =>
    Text.ofString "Error " ++ textOfInt failure.code ++ Text.ofString ": " ++ failure.message
  | note _ message => message

end Diagnostic

end MessageForms
