import MessageForms.Proofs.Collects
import MessageForms.Proofs.Variant.Reports

/-!
# What the plural rules are asked

Finding the entry to show puts a sequence of queries to the plural rules that the variant, the
parameters and the locale determine, whatever is answered: one for each selector, as often as it
occurs, that its first declaration makes the plural of a number. Everything that shows the entry
asks the same, and what is no number is never asked about.
-/

namespace MessageForms

/-- The query of an event, if rules were consulted. -/
def Event.query? : Event → Option PluralQuery
  | consult _ query => some query
  | report _ => none

namespace Traced

variable {α β : Type}

/-- The queries on the way to a value. -/
def queries (traced : Traced α) : List PluralQuery :=
  traced.events.filterMap Event.query?

@[simp] theorem queries_pure (value : α) : (pure value : Traced α).queries = [] := rfl

@[simp] theorem queries_bind (first : Traced α) (next : α → Traced β) :
    (first >>= next).queries = first.queries ++ (next first.value).queries :=
  List.filterMap_append

end Traced

/-- Reports ask nothing. -/
theorem Event.query?_of_reports (diagnostics : List Diagnostic) :
    (diagnostics.map Event.report).filterMap Event.query? = [] := by
  rw [List.filterMap_eq_nil_iff]
  intro event member
  obtain ⟨diagnostic, -, rfl⟩ := List.mem_map.mp member
  rfl

/-- Rules that answer as others do, and whose only events are the queries that are put to them. -/
def PluralRules.recording (rules : PluralRules) : PluralRules where
  select query := ⟨(rules.select query).value, [.consult .builtIn query]⟩

namespace Declaration

/-- The first of some declarations to bind a name. -/
def BindsFirst (declarations : List Declaration) (name : Text) (declaration : Declaration) : Prop :=
  ∃ earlier later, declarations = earlier ++ declaration :: later ∧
    declaration.name? = some name ∧ ∀ other ∈ earlier, other.name? ≠ some name

/-- Looking for a name finds the first declaration to bind it. -/
theorem find?_eq_some_iff {declarations : List Declaration} {name : Text}
    {declaration : Declaration} :
    (declarations.find? fun declaration => declaration.name? == some name) = some declaration ↔
      BindsFirst declarations name declaration := by
  rw [List.find?_eq_some_iff_append, BindsFirst]
  constructor
  · rintro ⟨binds, earlier, later, parts, others⟩
    refine ⟨earlier, later, parts, beq_iff_eq.mp binds, fun other member => ?_⟩
    simpa using others other member
  · rintro ⟨earlier, later, parts, binds, others⟩
    refine ⟨beq_iff_eq.mpr binds, earlier, later, parts, fun other member => ?_⟩
    simpa using others other member

end Declaration

namespace Variant

/-- What a selector asks the plural rules: if the first declaration to bind it makes it a plural
and the source of this plural is a number, then for the category of this number in the locale, by
rank exactly if the declaration says so. -/
inductive Asks (variant : Variant) (params : Params) (locale : Text) (selector : Text) :
    PluralQuery → Prop where
  | plural {derivation : Derivation} {param : ParamValue} {type : PluralType}
    (binds : Declaration.BindsFirst variant.declarations selector (.derived derivation))
    (isPlural : derivation.transform = Text.ofString "plural")
    (given : params.find? derivation.source = some param)
    (isNumber : param.toNumber.isNaN = false)
    (byRank : type = .ordinal ↔
      derivation.options.find? (Text.ofString "type") = some (Text.ofString "ordinal")) :
    Asks variant params locale selector ⟨param.toNumber, locale, type⟩

/-- What a variant asks the plural rules: nothing if it has no entries, and otherwise what its
selectors ask, in order. -/
inductive AsksAll (variant : Variant) (params : Params) (locale : Text) :
    List PluralQuery → Prop where
  | nothing (empty : variant.table = []) : AsksAll variant params locale []
  | selectors {queries : List PluralQuery} (nonempty : variant.table ≠ [])
    (collected : Collects (variant.Asks params locale) variant.selectorNames queries) :
    AsksAll variant params locale queries

variable (variant : Variant) (setting : Setting)

/-- Only the type `ordinal` asks for ranks. -/
theorem requestedType_eq_iff {derivation : Derivation} {type : PluralType} :
    derivation.requestedType = type ↔
      (type = .ordinal ↔
        derivation.options.find? Derivation.typeOption = some (Text.ofString "ordinal")) := by
  rw [Derivation.requestedType]
  cases type with
  | cardinal => simp
  | ordinal => simp

/-- What a selector asks is the query that evaluating it puts to the rules. -/
theorem selectorQuery?_eq_some_iff {selector : Text} {query : PluralQuery} :
    variant.selectorQuery? setting selector = some query ↔
      variant.Asks setting.params setting.locale selector query := by
  constructor
  · intro asked
    obtain ⟨derivation, isPlural, asked⟩ := Option.bind_eq_some_iff.mp asked
    obtain ⟨param, given, asked⟩ := Option.bind_eq_some_iff.mp asked
    obtain ⟨isNumber, same⟩ := Option.ite_none_left_eq_some.mp asked
    unfold plural? at isPlural
    split at isPlural
    next other bound =>
      obtain ⟨transform, isOther⟩ := Option.ite_none_right_eq_some.mp isPlural
      cases isOther
      cases same
      exact .plural (Declaration.find?_eq_some_iff.mp bound) transform given
        (Bool.eq_false_of_not_eq_true isNumber) (requestedType_eq_iff.mp rfl)
    next => cases isPlural
  · rintro ⟨binds, isPlural, given, isNumber, byRank⟩
    have plural := Declaration.find?_eq_some_iff.mpr binds
    obtain rfl := requestedType_eq_iff.mpr byRank
    simp [selectorQuery?, plural?, plural, Derivation.pluralTransform, isPlural, Derivation.query?,
      given, isNumber]

/-- The queries of a variant are found by evaluating its selectors. -/
theorem asksAll_iff {queries : List PluralQuery} :
    variant.AsksAll setting.params setting.locale queries ↔
      (if variant.table = [] then []
        else variant.selectorNames.filterMap (variant.selectorQuery? setting)) = queries := by
  have finds : ∀ selector query, variant.selectorQuery? setting selector = some query ↔
      variant.Asks setting.params setting.locale selector query :=
    fun _ _ => variant.selectorQuery?_eq_some_iff setting
  constructor
  · rintro (empty | ⟨nonempty, collected⟩)
    · exact if_pos empty
    · rw [if_neg nonempty]
      exact (collects_iff finds).mp collected
  · intro found
    by_cases empty : variant.table = []
    · rw [if_pos empty] at found
      exact found ▸ .nothing empty
    · rw [if_neg empty] at found
      exact .selectors empty ((collects_iff finds).mpr found)

/-- Whatever the rules do with a query, they are put those of the variant, one after the other. -/
theorem queries_resolve {queries : List PluralQuery}
    (asked : variant.AsksAll setting.params setting.locale queries) :
    (variant.resolve setting).queries =
      queries.flatMap fun query => (setting.rules.select query).queries := by
  have ofSelector : ∀ selector, (variant.selectorEvents setting selector).filterMap Event.query? =
      (variant.selectorQuery? setting selector).toList.flatMap fun query =>
        (setting.rules.select query).queries := by
    intro selector
    rw [selectorEvents, List.filterMap_append, Event.query?_of_reports]
    cases variant.selectorQuery? setting selector with
    | none => rfl
    | some query => simp [Traced.queries]
  rw [Traced.queries, events_resolve, resolveEvents]
  rw [asksAll_iff] at asked
  cases table : variant.table with
  | nil =>
    rw [if_pos table] at asked
    subst asked
    rfl
  | cons first rest =>
    rw [if_neg (table.trans_ne (List.cons_ne_nil first rest))] at asked
    subst asked
    have fallback : List.filterMap Event.query?
        (if (variant.resolve setting).value = some ⟨0, false⟩ then
          [.report (.noMatchingEntry first.1)] else []) = [] := by
      split <;> rfl
    dsimp only
    rw [List.filterMap_append, fallback, List.append_nil, List.filterMap_flatMap,
      List.filterMap_eq_flatMap_toList, List.flatMap_assoc]
    exact congrArg (List.flatMap · _) (funext ofSelector)

/-- The queries on record are those of the variant, and no others. -/
theorem queries_resolve_recording (params : Params) (locale : Text) (rules : PluralRules)
    (queries : List PluralQuery) :
    (variant.resolve ⟨params, locale, rules.recording⟩).queries = queries ↔
      variant.AsksAll params locale queries := by
  have onRecord : ∀ asked : List PluralQuery,
      (asked.flatMap fun query => (rules.recording.select query).queries) = asked :=
    fun asked => List.flatMap_singleton' asked
  constructor
  · rintro rfl
    have asked := (variant.asksAll_iff ⟨params, locale, rules.recording⟩).mpr rfl
    rw [variant.queries_resolve ⟨params, locale, rules.recording⟩ asked, onRecord]
    exact asked
  · intro asked
    rw [variant.queries_resolve ⟨params, locale, rules.recording⟩ asked, onRecord]

/-- Rendering, detection and comparison ask what finding the entry asks. -/
theorem queries_of_shown (other : Variant) :
    (variant.render setting).queries = (variant.resolve setting).queries ∧
      (variant.activeKey setting).queries = (variant.resolve setting).queries ∧
      (variant.activeFormEquals other setting).queries = (variant.resolve setting).queries := by
  refine ⟨?_, ?_, ?_⟩
  · simp [render, activeEntry]
  · simp [activeKey, activeEntry]
  · simp [activeFormEquals, activeKey, activeEntry]

variable {variant setting}

/-- No variant asks about what is no number. -/
theorem AsksAll.isNumber {params : Params} {locale : Text} {queries : List PluralQuery}
    (asked : variant.AsksAll params locale queries) {query : PluralQuery}
    (member : query ∈ queries) : query.number.isNaN = false := by
  cases asked with
  | nothing => cases member
  | selectors nonempty collected =>
    obtain ⟨selector, -, -, -, -, isNumber, -⟩ := collected.exists_of_mem member
    exact isNumber

end Variant

/-- Rendering a stored value asks what its variant asks, and nothing if it is none. -/
theorem StoredValue.queries_render (value : Text) (ending : Json.Ending) (setting : Setting) :
    (StoredValue.render value setting ending).queries =
      (Variant.ofText? value ending).value.elim [] fun variant =>
        (variant.resolve setting).queries := by
  rw [Traced.queries, events_render]
  cases (Variant.ofText? value ending).value with
  | none => rfl
  | some variant =>
    simp only [Option.elim_some, List.filterMap_append, Event.query?_of_reports, List.nil_append,
      Traced.queries, Variant.events_resolve]

end MessageForms
