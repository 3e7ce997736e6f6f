import MessageForms.Dictionary
import MessageForms.Entries

/-!
# Pattern keys

A pattern key is a list of clauses `selector=value` between commas. All of its clauses must
hold, and the wildcard holds for every value.
-/

namespace MessageForms

/-- The clauses of a key: selectors with the values they are to have. -/
abbrev PatternKey := List (Text × Text)

/-- The table of a variant: pattern keys with their templates, in order. -/
abbrev MatchTable := List (Text × Text)

/-- The values of the selectors; a selector may be known and yet have no value. -/
abbrev SelectorValues := Dictionary (Option Text)

/-- The texts of a list without repetitions, in order of first appearance. -/
def distinct (texts : List Text) : List Text :=
  texts.foldl (fun seen text => if text ∈ seen then seen else seen ++ [text]) []

namespace PatternKey

/-- The value that holds whatever the selector is. -/
def wildcard : Text := [Byte.star]

/-- The clause of one part of a key. A second equals sign ends the value; a part without an
equals sign, a selector or a value is no clause. -/
def clause? (part : Text) : Option (Text × Text) :=
  match Text.split Byte.equals part with
  | selector :: value :: _ =>
    if selector.trim = [] ∨ value.trim = [] then none else some (selector.trim, value.trim)
  | _ => none

/-- Reads a key. A repeated selector keeps its first place and takes its last value. -/
def parse (key : Text) : PatternKey :=
  Entries.merge ((Text.split Byte.comma key).filterMap clause?)

/-- The selectors of a key. -/
def selectors (key : PatternKey) : List Text :=
  key.map Prod.fst

/-- Whether a clause holds for the values of the selectors. -/
def clauseHolds (values : SelectorValues) (clause : Text × Text) : Bool :=
  clause.2 == wildcard || values.find? clause.1 == some (some clause.2)

/-- Whether all clauses of a key hold. -/
def holds (values : SelectorValues) (key : PatternKey) : Bool :=
  key.all (clauseHolds values)

end PatternKey

namespace MatchTable

/-- The selectors that occur in the keys of a table, in order of first appearance. -/
def selectors (table : MatchTable) : List Text :=
  distinct (table.flatMap fun entry => (PatternKey.parse entry.1).selectors)

/-- The index of the first entry whose key holds. -/
def firstMatch? (table : MatchTable) (values : SelectorValues) : Option Nat :=
  table.findIdx? fun entry => (PatternKey.parse entry.1).holds values

end MatchTable

end MessageForms
