import MessageForms.Proofs.Variant.Consultations

/-!
# What the choice of a form depends on

A form is chosen by the keys of a variant and by what evaluating its selectors gives. So two
variants, or one variant with two sets of parameters, choose alike as soon as they have the same
keys and evaluate each selector alike: then the answer is the same, and so is all that happens on
the way, the queries to the plural rules and the reports.
-/

namespace MessageForms

namespace MatchTable

/-- The first key that holds is found among the keys alone. -/
theorem firstMatch?_eq (table : MatchTable) (values : SelectorValues) :
    table.firstMatch? values =
      (table.map Prod.fst).findIdx? fun key => (PatternKey.parse key).holds values := by
  rw [firstMatch?, List.findIdx?_map]
  rfl

/-- The selectors of a table are those of its keys. -/
theorem selectors_eq (table : MatchTable) :
    table.selectors =
      distinct ((table.map Prod.fst).flatMap fun key => (PatternKey.parse key).selectors) := by
  rw [selectors, List.flatMap_map]

end MatchTable

namespace Variant

variable {variant other : Variant}

section Evaluation

variable {setting changed : Setting} {name : Text}

/-- A selector that is derived has the value of its derivation. -/
theorem selectorValue_of_derived {derivation : Derivation}
    (derived : Declaration.find? variant.declarations name = some (.derived derivation)) :
    variant.selectorValue setting name = derivation.evaluate setting := by
  rw [selectorValue, derived]

/-- A selector that is not derived has the text of the parameter with its name. -/
theorem selectorValue_of_underived
    (underived : ∀ derivation,
      Declaration.find? variant.declarations name ≠ some (.derived derivation)) :
    variant.selectorValue setting name =
      pure ((setting.params.find? name).map ParamValue.toText) := by
  unfold selectorValue
  split
  next derivation derived => exact absurd derived (underived derivation)
  next parameter found =>
    have named := List.find?_some found
    obtain rfl : parameter = name := by simpa [Declaration.name?] using named
    rfl
  next => rfl

/-- Names whose values are the same are evaluated alike. -/
theorem evaluateNames_congr {names : List Text}
    (same : ∀ name ∈ names, variant.selectorValue setting name = other.selectorValue changed name)
    (values : SelectorValues) :
    variant.evaluateNames setting names values = other.evaluateNames changed names values := by
  induction names generalizing values with
  | nil => rfl
  | cons name names inductionHypothesis =>
    obtain ⟨first, rest⟩ := List.forall_mem_cons.mp same
    simp only [evaluateNames, first, inductionHypothesis rest]

/-- Where the keys and the values of the selectors are the same, the same entry is found. -/
theorem resolve_congr (forms : variant.forms = other.forms)
    (same : variant.evaluateSelectors setting = other.evaluateSelectors changed) :
    variant.resolve setting = other.resolve changed := by
  have found : ∀ values, variant.table.firstMatch? values = other.table.firstMatch? values := by
    intro values
    rw [MatchTable.firstMatch?_eq, MatchTable.firstMatch?_eq]
    exact congrArg (List.findIdx? _) forms
  unfold resolve
  rw [same]
  unfold Variant.forms at forms
  cases table : variant.table with
  | nil =>
    rw [table, List.map_nil, eq_comm, List.map_eq_nil_iff] at forms
    rw [forms]
  | cons first rest =>
    -- The first key is quoted where no key fits, so it has to be the same as well.
    rw [table] at forms found
    obtain ⟨otherFirst, otherRest, otherTable, key, -⟩ := List.map_eq_cons_iff.mp forms.symm
    rw [otherTable] at found ⊢
    simp only [found, key]

end Evaluation

/-- The names that decide are given by the explicit ones and the keys. -/
theorem selectorNames_congr (selectors : variant.selectors = other.selectors)
    (forms : variant.forms = other.forms) : variant.selectorNames = other.selectorNames := by
  have inferred : variant.table.selectors = other.table.selectors := by
    rw [MatchTable.selectors_eq, MatchTable.selectors_eq]
    exact congrArg (fun keys => distinct (List.flatMap _ keys)) forms
  rw [selectorNames, selectorNames, selectors, inferred]

variable {params changed : Params} {locale : Text}

/-- A variant chooses with some parameters as another one does with others. The results are the
same for all rules, with the queries and the reports on the way. So for a host with any rules and
any threshold, the sequences of queries and of lines are the same. -/
structure ChoosesLike (variant : Variant) (params : Params) (other : Variant) (changed : Params)
    (locale : Text) : Prop where
  evaluateSelectors (rules : PluralRules) : variant.evaluateSelectors ⟨params, locale, rules⟩ =
    other.evaluateSelectors ⟨changed, locale, rules⟩
  resolve (rules : PluralRules) :
    variant.resolve ⟨params, locale, rules⟩ = other.resolve ⟨changed, locale, rules⟩
  activeKey (rules : PluralRules) :
    variant.activeKey ⟨params, locale, rules⟩ = other.activeKey ⟨changed, locale, rules⟩
  asks (queries : List PluralQuery) :
    variant.AsksAll params locale queries ↔ other.AsksAll changed locale queries
  lines (relay : Relay) (rules : PluralRules) :
    relay.lines (variant.render ⟨params, locale, rules⟩).events =
      relay.lines (other.render ⟨changed, locale, rules⟩).events

/-- The active key is found among the keys alone, and nothing happens after the entry to show is
found. -/
theorem activeKey_eq (variant : Variant) (setting : Setting) :
    variant.activeKey setting =
      ⟨(variant.resolve setting).value.bind fun resolution => variant.forms[resolution.index]?,
        (variant.resolve setting).events⟩ := by
  have value : (variant.activeKey setting).value =
      (variant.resolve setting).value.bind fun resolution =>
        variant.forms[resolution.index]? := by
    simp [activeKey, activeEntry, forms, Option.map_bind]
  have events : (variant.activeKey setting).events = (variant.resolve setting).events := by
    simp [activeKey, activeEntry]
  exact congrArg₂ Traced.mk value events

/-- The text that is shown is found among the templates alone. -/
theorem value_render_eq (variant : Variant) (setting : Setting) :
    (variant.render setting).value =
      (((variant.resolve setting).value.bind fun resolution =>
        (variant.table.map Prod.snd)[resolution.index]?).map fun template =>
          Template.substitute template setting.params).getD [] := by
  simp [render, activeEntry, Option.map_bind, Function.comp_def]

/-- Variants with the same keys that evaluate each selector alike choose alike. -/
theorem ChoosesLike.of_selectorValue (selectors : variant.selectorNames = other.selectorNames)
    (forms : variant.forms = other.forms)
    (same : ∀ rules, ∀ name ∈ variant.selectorNames,
      variant.selectorValue ⟨params, locale, rules⟩ name =
        other.selectorValue ⟨changed, locale, rules⟩ name) :
    variant.ChoosesLike params other changed locale := by
  have values : ∀ rules, variant.evaluateSelectors ⟨params, locale, rules⟩ =
      other.evaluateSelectors ⟨changed, locale, rules⟩ := by
    intro rules
    rw [Variant.evaluateSelectors, Variant.evaluateSelectors, ← selectors]
    exact evaluateNames_congr (same rules) Dictionary.empty
  have resolved : ∀ rules, variant.resolve ⟨params, locale, rules⟩ =
      other.resolve ⟨changed, locale, rules⟩ := fun rules => resolve_congr forms (values rules)
  refine ⟨values, resolved, fun rules => ?_, fun queries => ?_, fun relay rules => ?_⟩
  · rw [activeKey_eq, activeKey_eq, resolved, forms]
  · rw [← queries_resolve_recording _ _ _ .builtIn, resolved, queries_resolve_recording]
  · rw [events_render, events_render, ← events_resolve, ← events_resolve, resolved]

end Variant

end MessageForms
