import MessageForms.Traced

/-!
# Plural rules

A plural backend answers a query with a category such as `one` or `other`. The library has
rules of its own, and a host may put a categorizer in their place.
-/

namespace MessageForms

namespace PluralType

/-- Reads the type that a declaration asks for. -/
def ofText? (text : Text) : Option PluralType :=
  if text = "cardinal" then some cardinal
  else if text = "ordinal" then some ordinal
  else none

end PluralType

/-- A source of plural categories. -/
structure PluralRules where
  select : PluralQuery → Traced Text

/-- A categorizer of the host, which may decline to answer. -/
structure Categorizer where
  /-- The tag by which the host knows its categorizer. -/
  tag : Nat
  /-- The category of a query, if the host gives one. -/
  category? : PluralQuery → Option Text

namespace PluralRules

/-- The category of whatever has no other. -/
def other : Text := "other"

/-- The category of a whole number by rank: eleven, twelve and thirteen are irregular in
every hundred. -/
def rankCategory (rank : Nat) : Text :=
  if rank % 10 = 1 ∧ rank % 100 ≠ 11 then "one"
  else if rank % 10 = 2 ∧ rank % 100 ≠ 12 then "two"
  else if rank % 10 = 3 ∧ rank % 100 ≠ 13 then "few"
  else other

/-- The category of a number in the rules of the library. An amount is singular only if it is
one; a rank counts by its magnitude and must be whole. These are the rules of English for every
locale, and serve for running only: they stand where a service with rules for each locale would
be asked. What is proved leaves the built-in rules open. -/
def category (number : Double) : PluralType → Text
  | .cardinal => if number.equals .one then "one" else other
  | .ordinal =>
    match number with
    | .finite _ magnitude => (magnitude.natural?.map rankCategory).getD other
    | _ => other

/-- The rules of the library, as those that a session may start with. -/
def builtIn : PluralRules where
  select query := do
    Traced.event (.consult .builtIn query)
    pure (category query.number query.type)

/-- The rules of a categorizer. It is not asked about the NaN; the locale it sees and the
category it gives end at a NUL byte; and no category, or an empty one, is reported and read
as `other`. -/
def ofCategorizer (categorizer : Categorizer) : PluralRules where
  select query :=
    if query.number.isNaN then pure other
    else do
      let asked := { query with locale := query.locale.untilNul }
      Traced.event (.consult (.host categorizer.tag) asked)
      let answer := ((categorizer.category? asked).getD []).untilNul
      if answer = [] then
        Traced.report (.noPluralCategory query.number)
        pure other
      else pure answer

end PluralRules

end MessageForms
