import MessageForms.Variant

/-!
# Contexts

A context holds the two defaults of a host: the locale and the source of plural categories.
The latter is a categorizer of the host, or else the rules that came with the library.
-/

namespace MessageForms

/-- The defaults that queries are answered with. -/
structure Context where
  locale : Text
  /-- The categorizer of the host; if there is none, the built-in rules hold. -/
  categorizer? : Option Categorizer
  /-- The built-in rules. -/
  builtIn : PluralRules

namespace Context

/-- The defaults of a new context. -/
def initial (builtIn : PluralRules) : Context := ⟨"en", none, builtIn⟩

/-- The plural rules of a context. -/
def rules (context : Context) : PluralRules :=
  match context.categorizer? with
  | some categorizer => .ofCategorizer categorizer
  | none => context.builtIn

/-- The given locale, or the default one if it is missing or empty. -/
def resolveLocale (context : Context) (locale? : Option Text) : Text :=
  let locale := (locale?.getD []).untilNul
  if locale = [] then context.locale else locale

/-- The setting of a query. -/
def setting (context : Context) (params : Params) (locale? : Option Text) : Setting :=
  ⟨params, context.resolveLocale locale?, context.rules⟩

end Context

end MessageForms
