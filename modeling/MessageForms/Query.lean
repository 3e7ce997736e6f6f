import MessageForms.Context
import MessageForms.HostParams
import MessageForms.StoredValue

/-!
# Queries

A query is a question that a host asks of a context, or a change of one of its defaults.
Every text of a host ends at a NUL byte, and so does every text handed back; an argument
may also be missing. Where the document in a value ends therefore makes no difference here.
-/

namespace MessageForms

/-- A question to a context, or a change of its defaults. The flag `output` says whether the
host gave a place for the answer. -/
inductive Query where
  | setLocale (locale? : Option Text)
  | setCategorizer (categorizer? : Option Categorizer)
  | render (value? : Option Text) (params : HostParams) (locale? : Option Text) (output : Bool)
  | activeKey (value? : Option Text) (params : HostParams) (locale? : Option Text)
    (output : Bool)
  | formCount (value? : Option Text)
  | formKey (value? : Option Text) (index : Int) (output : Bool)
  | formTemplate (value? key? : Option Text) (output : Bool)
  | activeFormEquals (value? other? : Option Text) (params : HostParams)
    (locale? : Option Text) (output : Bool)
  | category (number : Double) (locale? : Option Text) (type : PluralType) (output : Bool)

/-- What a successful query hands back. -/
inductive Reply where
  | done
  | text (content : Text)
  | count (value : Nat)
  | verdict (isEqual : Bool)
deriving DecidableEq

/-- What stands in the place that a host gave for the answer. -/
inductive Output where
  /-- What stood there before. -/
  | untouched
  /-- No text. -/
  | cleared
  | text (content : Text)
  | integer (value : Int)
deriving DecidableEq

/-- The outcome of a query. -/
abbrev Outcome := Except Failure Reply

namespace Outcome

/-- Hands back a text. -/
def text (content : Text) : Outcome := .ok (.text content.untilNul)

end Outcome

namespace Query

/-- Reads a value that must be a variant, and goes on with it. -/
def requireVariant (value : Text) (next : Variant → Traced Outcome) : Traced Outcome := do
  let variant ← Variant.ofText? value.untilNul
  match variant with
  | some variant => next variant
  | none => pure (.error .notVariant)

/-- The outcome of a query. Arguments are checked before the value is read, and the value
before the question is answered. -/
def answer (context : Context) : Query → Traced Outcome
  | setLocale locale? =>
    pure (if (locale?.getD []).untilNul = [] then .error .emptyLocale else .ok .done)
  | setCategorizer _ => pure (.ok .done)
  | render value? params locale? output =>
    if output then
      match value?, params.read? with
      | some value, some params => do
        let text ← StoredValue.render value.untilNul (context.setting params locale?)
        pure (Outcome.text text)
      | _, _ => pure (.error .invalidValueOrParams)
    else pure (.error .missingTextOutput)
  | activeKey value? params locale? output =>
    if output then
      match value?, params.read? with
      | some value, some params =>
        requireVariant value fun variant => do
          let key ← variant.activeKey (context.setting params locale?)
          pure (key.elim (.error .noActiveKey) Outcome.text)
      | _, _ => pure (.error .invalidValueOrParams)
    else pure (.error .missingKeyOutput)
  | formCount value? =>
    match value? with
    | some value =>
      requireVariant value fun variant => pure (.ok (.count variant.table.length))
    | none => pure (.error .missingValue)
  | formKey value? index output =>
    match value?, output with
    | some value, true =>
      requireVariant value fun variant =>
        if 0 ≤ index then
          pure (variant.forms[index.toNat]?.elim (.error .indexOutOfRange) Outcome.text)
        else pure (.error .indexOutOfRange)
    | _, _ => pure (.error .missingValueOrKeyOutput)
  | formTemplate value? key? output =>
    match value?, key?, output with
    | some value, some key, true =>
      requireVariant value fun variant =>
        pure ((variant.template? key.untilNul).elim (.error (.keyNotFound key.untilNul))
          Outcome.text)
    | _, _, _ => pure (.error .missingTemplateArgument)
  | activeFormEquals value? other? params locale? output =>
    match value?, other?, output with
    | some value, some other, true =>
      match params.read? with
      | some params =>
        requireVariant value fun variant =>
          requireVariant other fun other => do
            let isEqual ← variant.activeFormEquals other (context.setting params locale?)
            pure (.ok (.verdict isEqual))
      | none => pure (.error .invalidParams)
    | _, _, _ => pure (.error .missingComparisonArgument)
  | category number locale? type output =>
    if output then do
      let category ← context.rules.select ⟨number, context.resolveLocale locale?, type⟩
      pure (Outcome.text category)
    else pure (.error .missingCategoryOutput)

/-- The defaults after a query; only a successful change of them has an effect. -/
def configure (context : Context) : Query → Context
  | setLocale locale? =>
    let locale := (locale?.getD []).untilNul
    if locale = [] then context else { context with locale }
  | setCategorizer categorizer? => { context with categorizer? }
  | _ => context

/-- The integer that a query returns: a count of forms, or the code of its outcome. Counting
forms marks every failure by minus one. -/
def returned : Query → Outcome → Int
  | _, .ok (.count value) => value
  | _, .ok _ => Failure.success
  | formCount _, .error _ => -1
  | _, .error failure => failure.code

/-- Whether a failure is noticed before the place for the answer is cleared. -/
def precedesClearing : Failure → Bool
  | .missingContext | .missingTextOutput | .missingKeyOutput | .missingCategoryOutput
  | .missingValueOrKeyOutput | .missingTemplateArgument | .missingComparisonArgument => true
  | _ => false

/-- What stands in the place for the answer after a query: its text or its verdict, or
nothing of either after a failure. -/
def output : Query → Outcome → Output
  | _, .ok (.text content) => .text content
  | _, .ok (.verdict isEqual) => .integer (if isEqual then 1 else 0)
  | _, .ok _ => .untouched
  | query, .error failure =>
    if precedesClearing failure then .untouched
    else
      match query with
      | render .. | activeKey .. | formKey .. | formTemplate .. | category .. => .cleared
      | activeFormEquals .. => .integer 0
      | _ => .untouched

end Query

end MessageForms
