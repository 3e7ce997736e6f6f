import MessageForms.Declaration
import MessageForms.PatternKey
import MessageForms.Plural
import MessageForms.Template

/-!
# Variants

A variant is a message with several forms. Its declarations and selectors say which values
decide between the forms, and its table gives a template for each combination that matters.
-/

namespace MessageForms

/-- A message with several forms. -/
structure Variant where
  declarations : List Declaration
  /-- The names to select on; if there are none, those that occur in the table. -/
  selectors : List Text
  table : MatchTable
deriving DecidableEq

/-- The circumstances in which a message is rendered. -/
structure Setting where
  params : Params
  locale : Text
  rules : PluralRules

/-- The entry that a variant shows: its index, and whether its key holds or it merely is the
first one. -/
structure Resolution where
  index : Nat
  matched : Bool
deriving DecidableEq, Repr

namespace Derivation

/-- The transform that asks for a plural category. -/
def pluralTransform : Text := "plural"

/-- The option that chooses between amounts and ranks. -/
def typeOption : Text := "type"

/-- The plural type that a derivation asks for; one that does not exist is reported and read
as `cardinal`. -/
def pluralType (derivation : Derivation) : Traced PluralType :=
  match derivation.options.find? typeOption with
  | none => pure .cardinal
  | some requested =>
    match PluralType.ofText? requested with
    | some type => pure type
    | none => do
      Traced.report (.unknownPluralType requested derivation.name)
      pure .cardinal

/-- The number of the source parameter; one that is missing is no number. -/
def number (derivation : Derivation) (params : Params) : Double :=
  ((params.find? derivation.source).map ParamValue.toNumber).getD .nan

/-- The value of a derivation. A plural is the category of the source parameter, `other` if
that is no number; every other transform passes the text of the parameter through. -/
def evaluate (derivation : Derivation) (setting : Setting) : Traced (Option Text) :=
  if derivation.transform = pluralTransform then do
    let type ← derivation.pluralType
    let number := derivation.number setting.params
    if number.isNaN then pure (some PluralRules.other)
    else do
      let category ← setting.rules.select ⟨number, setting.locale, type⟩
      pure (some category)
  else pure ((setting.params.find? derivation.source).map ParamValue.toText)

end Derivation

namespace Variant

/-- The names that decide between the forms. -/
def selectorNames (variant : Variant) : List Text :=
  if variant.selectors = [] then variant.table.selectors else variant.selectors

/-- The value of a selector: that of the first declaration that binds its name, or else of
the parameter with that name. -/
def selectorValue (variant : Variant) (setting : Setting) (name : Text) :
    Traced (Option Text) :=
  match Declaration.find? variant.declarations name with
  | some (.derived derivation) => derivation.evaluate setting
  | some (.input parameter) => pure ((setting.params.find? parameter).map ParamValue.toText)
  | _ => pure ((setting.params.find? name).map ParamValue.toText)

/-- Evaluates names in order, a repeated name each time it occurs. -/
def evaluateNames (variant : Variant) (setting : Setting) :
    List Text → SelectorValues → Traced SelectorValues
  | [], values => pure values
  | name :: rest, values => do
    let value ← variant.selectorValue setting name
    variant.evaluateNames setting rest (values.insert name value)

/-- The values of all selectors. -/
def evaluateSelectors (variant : Variant) (setting : Setting) : Traced SelectorValues :=
  variant.evaluateNames setting variant.selectorNames Dictionary.empty

/-- Finds the entry to show: the first whose key holds, or else the first of all. A variant
without entries shows none. -/
def resolve (variant : Variant) (setting : Setting) : Traced (Option Resolution) :=
  match variant.table with
  | [] => do
    Traced.report .emptyMatch
    pure none
  | (firstKey, _) :: _ => do
    let values ← variant.evaluateSelectors setting
    match variant.table.firstMatch? values with
    | some index => pure (some ⟨index, true⟩)
    | none =>
      Traced.report (.noMatchingEntry firstKey)
      pure (some ⟨0, false⟩)

/-- The entry to show. -/
def activeEntry (variant : Variant) (setting : Setting) : Traced (Option (Text × Text)) := do
  let resolution ← variant.resolve setting
  pure (resolution.bind fun resolution => variant.table[resolution.index]?)

/-- The text of the entry to show, empty if there is none. -/
def render (variant : Variant) (setting : Setting) : Traced Text := do
  let entry ← variant.activeEntry setting
  pure ((entry.map fun entry => Template.substitute entry.2 setting.params).getD [])

/-- The key of the entry to show. -/
def activeKey (variant : Variant) (setting : Setting) : Traced (Option Text) := do
  let entry ← variant.activeEntry setting
  pure (entry.map Prod.fst)

/-- The keys of all forms, in order. -/
def forms (variant : Variant) : List Text :=
  variant.table.map Prod.fst

/-- The template of the first entry with a key. -/
def template? (variant : Variant) (key : Text) : Option Text :=
  variant.table.lookup key

/-- Whether two variants have the same template under the active key of the first. -/
def activeFormEquals (variant other : Variant) (setting : Setting) : Traced Bool := do
  let key ← variant.activeKey setting
  pure <|
    match key with
    | none => false
    | some key =>
      match variant.template? key, other.template? key with
      | some mine, some theirs => mine == theirs
      | _, _ => false

end Variant

end MessageForms
