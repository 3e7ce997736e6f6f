import MessageForms.Diagnostic

/-!
# Events

Evaluating a message has two visible effects: it reports diagnostics, and it consults a
plural backend that may belong to the host.
-/

namespace MessageForms

/-- The two ways in which numbers are categorized: amounts and ranks. -/
inductive PluralType where
  | cardinal
  | ordinal
deriving DecidableEq, Repr

/-- A question to a plural backend. -/
structure PluralQuery where
  number : Double
  locale : Text
  type : PluralType
deriving DecidableEq

/-- Who is asked for a plural category. -/
inductive Consultant where
  /-- The rules of the library. -/
  | builtIn
  /-- A categorizer of the host, known by the tag that the host gave it. -/
  | host (tag : Nat)
deriving DecidableEq, Repr

/-- A visible effect. -/
inductive Event where
  | report (diagnostic : Diagnostic)
  | consult (consultant : Consultant) (query : PluralQuery)
deriving DecidableEq

end MessageForms
