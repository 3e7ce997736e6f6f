import MessageForms.Number.Decimal

/-!
# Failures of requests

A request fails only on misuse or because its question has no answer for the given value.
Each cause has a code, shared by causes of one class, and a message.
-/

namespace MessageForms

/-- Why a request failed. -/
inductive Failure where
  /-- The built-in plural rules are not available. -/
  | rulesUnavailable
  /-- The handle refers to no context. -/
  | missingContext
  /-- No locale, or an empty one, was given as the default. -/
  | emptyLocale
  /-- Rendering was given no place for the text. -/
  | missingTextOutput
  /-- Detection was given no place for the key. -/
  | missingKeyOutput
  /-- Categorizing was given no place for the category. -/
  | missingCategoryOutput
  /-- There is no value, or the parameters are malformed. -/
  | invalidValueOrParams
  /-- The parameters are malformed. -/
  | invalidParams
  /-- Counting forms was given no value. -/
  | missingValue
  /-- Listing a form was given no value or no place for the key. -/
  | missingValueOrKeyOutput
  /-- A template was asked for without a value, a key or a place for it. -/
  | missingTemplateArgument
  /-- A comparison lacks one of its values or a place for the answer. -/
  | missingComparisonArgument
  /-- There is no form with the given index. -/
  | indexOutOfRange
  /-- The value is a plain template. -/
  | notVariant
  /-- The variant has no entries, so none of them is active. -/
  | noActiveKey
  /-- The variant has no entry with the given key. -/
  | keyNotFound (key : Text)
deriving DecidableEq

namespace Failure

/-- The code of success. -/
def success : Int := 0

/-- The message of success. -/
def successMessage : Text := "No error"

/-- The code of a failure. -/
def code : Failure → Int
  | rulesUnavailable => -1
  | notVariant => -30
  | noActiveKey => -31
  | keyNotFound _ => -32
  | _ => -2

/-- The message of a failure. -/
def message : Failure → Text
  | rulesUnavailable => "Failed to create ICU plural rules backend"
  | missingContext => "Invalid context (NULL)"
  | emptyLocale => "locale is NULL or empty"
  | missingTextOutput => "out_text is NULL"
  | missingKeyOutput => "out_key is NULL"
  | missingCategoryOutput => "out_category is NULL"
  | invalidValueOrParams => "Invalid value or parameter array"
  | invalidParams => "Invalid parameter array"
  | missingValue => "value is NULL"
  | missingValueOrKeyOutput => "value or out_key is NULL"
  | missingTemplateArgument => "value, key or out_template is NULL"
  | missingComparisonArgument => "value, other_value or out_equal is NULL"
  | indexOutOfRange => "Form index out of range"
  | notVariant => "Value is not a variant structure"
  | noActiveKey => "Variant has no match entries"
  | keyNotFound key => Text.ofString "Pattern key not found: " ++ key

end Failure

end MessageForms
