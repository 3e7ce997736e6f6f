import MessageForms.Proofs.Variant.Resaving
import MessageForms.Proofs.Variant.Resolution
import MessageForms.Relay

/-!
# What is reported

Rendering a stored value reports what it degrades, in a fixed order: the texts that are no
declarations, a table that is no object, then for each selector the plural type that does not
exist and whatever the plural rules report, and at last that no key fits. A value that is no
variant is a plain template, of which nothing is reported. Each part is stated apart from the
evaluation, and the lines that a host receives are those of the parts, one after the other.
-/

namespace MessageForms

namespace Traced

/-- The events of a list of traced results come one after the other. -/
theorem events_all {α : Type} (results : List (Traced α)) :
    (all results).events = results.flatMap events := by
  induction results with
  | nil => rfl
  | cons first rest inductionHypothesis => simp [all, inductionHypothesis]

end Traced

namespace Declaration

/-- The warning on a text in a list of declarations, if it is neither empty nor a
declaration. -/
def warning? (text : Text) : Option Diagnostic :=
  match parse? text with
  | .ok _ => none
  | .error fault => if text = [] then none else some (.invalidDeclaration fault text)

/-- What is warned of is a warning. -/
theorem severity_of_warning? {text : Text} {diagnostic : Diagnostic}
    (reported : warning? text = some diagnostic) : diagnostic.severity = .warning := by
  unfold warning? at reported
  split at reported
  next => cases reported
  next fault =>
    obtain ⟨-, same⟩ := Option.ite_none_left_eq_some.mp reported
    cases same
    rfl

/-- There is a warning exactly on the texts that are kept as they stand, but not on empty
ones. -/
theorem isSome_warning?_iff (text : Text) :
    (warning? text).isSome ↔ text ≠ [] ∧ (parse text).value = unknown text := by
  rw [warning?, parse]
  cases read : parse? text with
  | ok declaration =>
    exact iff_of_false Bool.false_ne_true fun kept => ne_unknown_of_parse? read text kept.2
  | error fault =>
    by_cases empty : text = []
    · simp [empty]
    · simp [empty]

/-- Reading a text reports it if there is something wrong with it. -/
theorem events_parse {text : Text} (nonempty : text ≠ []) :
    (parse text).events = (warning? text).toList.map .report := by
  rw [warning?, parse]
  cases parse? text with
  | ok declaration => rfl
  | error fault => simp [nonempty]

/-- Reading a list of declarations reports each text that something is wrong with. -/
theorem events_parseAll (texts : List Text) :
    (parseAll texts).events = (texts.filterMap warning?).map .report := by
  rw [parseAll, Traced.events_all, List.flatMap_map]
  induction texts with
  | nil => rfl
  | cons text texts inductionHypothesis =>
    by_cases empty : text = []
    · have unreported : warning? text = none := by
        rw [warning?]
        split <;> simp [empty]
      rw [List.filterMap_cons_none unreported, ← inductionHypothesis, empty]
      rfl
    · rw [List.filter_cons_of_pos (by simpa using empty), List.flatMap_cons,
        inductionHypothesis, events_parse empty]
      cases reported : warning? text <;> simp [reported]

end Declaration

namespace Derivation

/-- The warning on the plural type that a derivation asks for, if there is no such type. -/
def typeWarning? (derivation : Derivation) : Option Diagnostic :=
  (derivation.options.find? typeOption).bind fun requested =>
    if requested = Text.ofString "cardinal" ∨ requested = Text.ofString "ordinal" then none
    else some (.unknownPluralType requested derivation.name)

/-- The query that a plural puts to the rules, if its source is a number. -/
def query? (derivation : Derivation) (setting : Setting) : Option PluralQuery :=
  (setting.params.find? derivation.source).bind fun param =>
    if param.toNumber.isNaN then none
    else some ⟨param.toNumber, setting.locale, derivation.requestedType⟩

/-- Choosing a plural type reports one that does not exist. -/
theorem events_pluralType (derivation : Derivation) :
    derivation.pluralType.events = derivation.typeWarning?.toList.map .report := by
  rw [pluralType, typeWarning?]
  cases derivation.options.find? typeOption with
  | none => rfl
  | some requested =>
    by_cases cardinal : requested = Text.ofString "cardinal"
    · simp [PluralType.ofText?, cardinal]
    · by_cases ordinal : requested = Text.ofString "ordinal"
      · have differ : Text.ofString "ordinal" ≠ Text.ofString "cardinal" := by decide +kernel
        simp [PluralType.ofText?, ordinal, differ]
      · simp [PluralType.ofText?, cardinal, ordinal]

/-- Evaluating a plural reports its type, and then puts its query to the rules. -/
theorem events_evaluate_of_plural {derivation : Derivation}
    (plural : derivation.transform = pluralTransform) (setting : Setting) :
    (derivation.evaluate setting).events =
      derivation.typeWarning?.toList.map .report ++
        (derivation.query? setting).elim [] fun query => (setting.rules.select query).events := by
  rw [evaluate, if_pos plural, Traced.events_bind, events_pluralType, Variant.value_pluralType,
    query?, number]
  cases setting.params.find? derivation.source with
  | none => simp [Double.isNaN]
  | some param => by_cases noNumber : param.toNumber.isNaN <;> simp [noNumber]

end Derivation

namespace Variant

variable (variant : Variant) (setting : Setting)

/-- The plural that a selector stands for, if its first declaration makes it one. -/
def plural? (name : Text) : Option Derivation :=
  match variant.declarations.find? fun declaration => declaration.name? == some name with
  | some (.derived derivation) =>
    if derivation.transform = Derivation.pluralTransform then some derivation else none
  | _ => none

/-- The warning that evaluating a selector gives rise to. -/
def selectorWarning? (name : Text) : Option Diagnostic :=
  (variant.plural? name).bind Derivation.typeWarning?

/-- The query that evaluating a selector puts to the rules. -/
def selectorQuery? (name : Text) : Option PluralQuery :=
  (variant.plural? name).bind fun derivation => derivation.query? setting

/-- Whatever happens when a selector is evaluated. -/
def selectorEvents (name : Text) : List Event :=
  (variant.selectorWarning? name).toList.map .report ++
    (variant.selectorQuery? setting name).elim [] fun query =>
      (setting.rules.select query).events

/-- Evaluating a selector has no other events. -/
theorem events_selectorValue (name : Text) :
    (variant.selectorValue setting name).events = variant.selectorEvents setting name := by
  unfold selectorValue selectorEvents selectorWarning? selectorQuery? plural? Declaration.find?
  cases variant.declarations.find? fun declaration => declaration.name? == some name with
  | none => rfl
  | some declaration =>
    cases declaration with
    | derived derivation =>
      by_cases plural : derivation.transform = Derivation.pluralTransform
      · simp [Derivation.events_evaluate_of_plural plural, plural]
      · simp [Derivation.evaluate, plural]
    | input parameter => rfl
    | unknown text => rfl

/-- Names are evaluated in order, and each as often as it occurs. -/
theorem events_evaluateNames (names : List Text) (values : SelectorValues) :
    (variant.evaluateNames setting names values).events =
      names.flatMap (variant.selectorEvents setting) := by
  induction names generalizing values with
  | nil => rfl
  | cons name names inductionHypothesis =>
    rw [evaluateNames, Traced.events_bind, events_selectorValue, inductionHypothesis,
      List.flatMap_cons]

/-- Whatever happens when the entry to show is found. -/
def resolveEvents : List Event :=
  match variant.table with
  | [] => [.report .emptyMatch]
  | (firstKey, _) :: _ =>
    variant.selectorNames.flatMap (variant.selectorEvents setting) ++
      if (variant.resolve setting).value = some ⟨0, false⟩ then
        [.report (.noMatchingEntry firstKey)]
      else []

/-- Finding the entry to show has no other events. -/
theorem events_resolve : (variant.resolve setting).events = variant.resolveEvents setting := by
  cases table : variant.table with
  | nil => simp [resolveEvents, resolve, table]
  | cons first rest =>
    have events : (variant.resolve setting).events =
        (variant.evaluateSelectors setting).events ++
          (variant.table.firstMatch? (variant.evaluateSelectors setting).value).elim
            [.report (.noMatchingEntry first.1)] fun _ => [] := by
      simp only [resolve, table, Traced.events_bind]
      cases MatchTable.firstMatch? (first :: rest) (variant.evaluateSelectors setting).value <;>
        rfl
    have nonempty : variant.table ≠ [] := table.trans_ne (List.cons_ne_nil first rest)
    rw [events, resolveEvents, value_resolve_of_ne_nil nonempty, table, evaluateSelectors,
      events_evaluateNames]
    cases MatchTable.firstMatch? (first :: rest)
      (variant.evaluateNames setting variant.selectorNames Dictionary.empty).value <;> simp

/-- Rendering has no other events. -/
theorem events_render : (variant.render setting).events = variant.resolveEvents setting := by
  simp [render, activeEntry, events_resolve]

end Variant

namespace StoredValue

section Reading

variable (value : Text) (ending : Json.Ending)

/-- What the first item of a written list holds under a name, null if there is nothing. -/
def member (name : Text) : Json :=
  (((Json.read? value ending).bind fun json => json.items.head?).bind fun first =>
    first.member? name).getD .null

/-- The texts of the list of declarations. -/
def declarationTexts : List Text :=
  (member value ending Variant.declarationsName).items.filterMap Json.text?

/-- The warning on a table that is no object. -/
def tableWarning? : Option Diagnostic :=
  match member value ending Variant.matchName with
  | .object _ => none
  | json => some (.matchNotObject json.kindName)

/-- The warnings on the text of a variant. -/
def warnings : List Diagnostic :=
  (declarationTexts value ending).filterMap Declaration.warning? ++
    (tableWarning? value ending).toList

variable {value ending} in
/-- Reading a table reports one that is no object. -/
theorem events_tableOfJson {table : Json}
    (isTable : member value ending Variant.matchName = table) :
    (Variant.tableOfJson table).events = (tableWarning? value ending).toList.map .report := by
  rw [tableWarning?, isTable]
  cases table with
  | object members => rfl
  | atom value => rfl
  | array items => rfl

/-- Reading a variant has its warnings as events, and reading a plain template has none. -/
theorem events_ofText? :
    (Variant.ofText? value ending).events =
      if (Variant.ofText? value ending).value.isSome then (warnings value ending).map .report
      else [] := by
  obtain plain | ⟨json, first, rest, table, isJson, items, isTable, decoded⟩ :=
    Variant.ofText?_cases value ending
  · rw [plain]
    rfl
  · have memberOf : ∀ name, member value ending name = (first.member? name).getD .null :=
      fun name => by simp [member, isJson, items]
    have tableEvents := events_tableOfJson
      ((memberOf Variant.matchName).trans (by rw [isTable, Option.getD_some]))
    simp [decoded, Variant.ofMembers, Variant.declarationsOfJson, Declaration.events_parseAll,
      tableEvents, warnings, declarationTexts, memberOf]

/-- Whatever happens when a value is rendered. -/
theorem events_render (setting : Setting) :
    (render value setting ending).events =
      match (Variant.ofText? value ending).value with
      | none => []
      | some variant => (warnings value ending).map .report ++ variant.resolveEvents setting := by
  by_cases empty : value = []
  · simp [render, empty, Variant.ofText?_nil]
  · rw [render, if_neg empty, Traced.events_bind, events_ofText?]
    cases (Variant.ofText? value ending).value with
    | none => rfl
    | some variant => simp [Variant.events_render]

end Reading

end StoredValue

/-- The line of a warning. -/
def Diagnostic.warningLine (diagnostic : Diagnostic) : LogLine :=
  ⟨.warning, Relay.lineText .warning diagnostic.message⟩

namespace Relay

/-- The relay of a host that listens and has set no threshold. -/
def listening : Relay := { initial with attached := true }

/-- The lines of events in two parts are those of the parts. -/
theorem lines_append (relay : Relay) (earlier later : List Event) :
    relay.lines (earlier ++ later) = relay.lines earlier ++ relay.lines later :=
  List.filterMap_append

/-- A host that listens receives every warning. -/
theorem lineOf?_of_warning {diagnostic : Diagnostic} (isWarning : diagnostic.severity = .warning) :
    listening.lineOf? (.report diagnostic) = some diagnostic.warningLine := by
  simp [lineOf?, deliver?, listening, initial, isWarning, Severity.number, Severity.ofThreshold,
    Severity.offNumber, Severity.ofNumber, Diagnostic.warningLine]

/-- A host that listens receives the lines of warnings in order. -/
theorem lines_of_warnings {diagnostics : List Diagnostic}
    (areWarnings : ∀ diagnostic ∈ diagnostics, diagnostic.severity = .warning) :
    listening.lines (diagnostics.map .report) = diagnostics.map Diagnostic.warningLine := by
  induction diagnostics with
  | nil => rfl
  | cons diagnostic diagnostics inductionHypothesis =>
    obtain ⟨isWarning, areWarnings⟩ := List.forall_mem_cons.mp areWarnings
    rw [List.map_cons, lines, List.filterMap_cons_some (lineOf?_of_warning isWarning),
      ← lines, inductionHypothesis areWarnings, List.map_cons]

end Relay

/-- Rules of a categorizer report exactly that it was asked and gave no category. -/
theorem PluralRules.lines_ofCategorizer (categorizer : Categorizer) (query : PluralQuery) :
    Relay.listening.lines ((PluralRules.ofCategorizer categorizer).select query).events =
      if query.number.isNaN = false ∧ ((categorizer.category?
          { query with locale := query.locale.untilNul }).getD []).untilNul = [] then
        [Diagnostic.warningLine (.noPluralCategory query.number)]
      else [] := by
  have unheard : ∀ consultant asked, Relay.listening.lineOf? (.consult consultant asked) = none :=
    fun _ _ => rfl
  have heard : Relay.listening.lineOf? (.report (.noPluralCategory query.number)) =
      some (Diagnostic.warningLine (.noPluralCategory query.number)) :=
    Relay.lineOf?_of_warning rfl
  unfold ofCategorizer
  by_cases noNumber : query.number.isNaN
  · simp [noNumber, Relay.lines]
  · by_cases empty : ((categorizer.category?
        { query with locale := query.locale.untilNul }).getD []).untilNul = []
    · simp [noNumber, empty, Relay.lines, Traced.event, unheard, heard]
    · simp [noNumber, empty, Relay.lines, Traced.event, unheard]

namespace Variant

variable (variant : Variant) (setting : Setting)

/-- The lines of evaluating a selector. -/
def selectorLines (name : Text) : List LogLine :=
  (variant.selectorWarning? name).toList.map Diagnostic.warningLine ++
    Relay.listening.lines ((variant.selectorQuery? setting name).elim [] fun query =>
      (setting.rules.select query).events)

/-- The lines of finding the entry to show. -/
def resolveLines : List LogLine :=
  match variant.table with
  | [] => [Diagnostic.warningLine .emptyMatch]
  | (firstKey, _) :: _ =>
    variant.selectorNames.flatMap (variant.selectorLines setting) ++
      if (variant.resolve setting).value = some ⟨0, false⟩ then
        [Diagnostic.warningLine (.noMatchingEntry firstKey)]
      else []

/-- A selector is warned of by its plural type only. -/
theorem severity_of_selectorWarning? {name : Text} {diagnostic : Diagnostic}
    (reported : variant.selectorWarning? name = some diagnostic) :
    diagnostic.severity = .warning := by
  obtain ⟨derivation, -, reported⟩ := Option.bind_eq_some_iff.mp reported
  obtain ⟨requested, -, reported⟩ := Option.bind_eq_some_iff.mp reported
  obtain ⟨-, same⟩ := Option.ite_none_left_eq_some.mp reported
  cases same
  rfl

/-- The events of evaluating a selector give its lines. -/
theorem lines_selectorEvents (name : Text) :
    Relay.listening.lines (variant.selectorEvents setting name) =
      variant.selectorLines setting name := by
  rw [selectorEvents, Relay.lines_append, Relay.lines_of_warnings, selectorLines]
  intro diagnostic member
  exact variant.severity_of_selectorWarning? (Option.mem_toList.mp member)

/-- The events of finding the entry to show give its lines. -/
theorem lines_resolveEvents :
    Relay.listening.lines (variant.resolveEvents setting) = variant.resolveLines setting := by
  have selectors : Relay.listening.lines
      (variant.selectorNames.flatMap (variant.selectorEvents setting)) =
        variant.selectorNames.flatMap (variant.selectorLines setting) := by
    rw [Relay.lines, List.filterMap_flatMap]
    exact congrArg (List.flatMap · _) (funext (variant.lines_selectorEvents setting))
  unfold resolveEvents resolveLines
  cases variant.table with
  | nil => rfl
  | cons first rest =>
    dsimp only
    rw [Relay.lines_append, selectors]
    split <;> rfl

end Variant

namespace StoredValue

/-- All warnings on the text of a variant are warnings. -/
theorem severity_of_mem_warnings {value : Text} {ending : Json.Ending} {diagnostic : Diagnostic}
    (member : diagnostic ∈ warnings value ending) : diagnostic.severity = .warning := by
  obtain ofDeclarations | ofTable := List.mem_append.mp member
  · obtain ⟨text, -, reported⟩ := List.mem_filterMap.mp ofDeclarations
    exact Declaration.severity_of_warning? reported
  · have reported := Option.mem_toList.mp ofTable
    unfold tableWarning? at reported
    split at reported
    next => cases reported
    next =>
      cases reported
      rfl

/-- The lines that a host receives while a value is rendered are those of its warnings and of
finding the entry to show, and there are none for a plain template, wherever documents end. A
text in the list of declarations is warned of exactly if it is not empty and kept as it stands,
and rules of a categorizer report exactly that they were asked and got no category. -/
theorem lines_render (value : Text) (ending : Json.Ending) (setting : Setting) :
    Relay.listening.lines (render value setting ending).events =
        (match (Variant.ofText? value ending).value with
        | none => []
        | some variant =>
          ((declarationTexts value ending).filterMap Declaration.warning?).map
              Diagnostic.warningLine ++
            (tableWarning? value ending).toList.map Diagnostic.warningLine ++
              variant.resolveLines setting) ∧
      (∀ text, (Declaration.warning? text).isSome ↔
        text ≠ [] ∧ (Declaration.parse text).value = .unknown text) ∧
      ∀ categorizer query, Relay.listening.lines
          ((PluralRules.ofCategorizer categorizer).select query).events =
        if query.number.isNaN = false ∧ ((categorizer.category?
            { query with locale := query.locale.untilNul }).getD []).untilNul = [] then
          [Diagnostic.warningLine (.noPluralCategory query.number)]
        else [] := by
  refine ⟨?_, Declaration.isSome_warning?_iff, PluralRules.lines_ofCategorizer⟩
  rw [events_render]
  cases (Variant.ofText? value ending).value with
  | none => rfl
  | some variant =>
    dsimp only
    rw [Relay.lines_append, Variant.lines_resolveEvents,
      Relay.lines_of_warnings fun _ => severity_of_mem_warnings, warnings, List.map_append]

/-- A variant whose table is empty, with what is no JSON behind a NUL byte. A reader for which the
document ends there warns of the table; for one that reads on the value is a plain template. -/
example :
    let value := Text.ofString "[\x7b\"match\":\x7b\x7d\x7d]" ++ Byte.nul :: "]"
    let setting : Setting := ⟨.empty, "en", .ofCategorizer ⟨0, fun _ => none⟩⟩
    (Relay.listening.lines (render value setting .atNul).events).map LogLine.text =
        [Text.ofString "[msgvariant][warning] Invalid variant: match table is missing or empty"] ∧
      Relay.listening.lines (render value setting).events = [] := by
  decide +kernel

/-- A text that is no declaration, and a selector that occurs twice and whose plural type does
not exist, in a variant none of whose keys fits. The categorizer gives no category. -/
example :
    let value := Text.ofString "[\x7b\"declarations\":[\"\",\"local n\"," ++
      Text.ofString "\"local k = n: plural type=odd\"],\"selectors\":[\"k\",\"n\",\"k\"]," ++
      Text.ofString "\"match\":\x7b\"k=two\":\"\"\x7d\x7d]"
    let setting : Setting :=
      ⟨.ofList [("n", .number .one)], "en", .ofCategorizer ⟨0, fun _ => none⟩⟩
    (Relay.listening.lines (render value setting).events).map LogLine.text =
      [Text.ofString "[msgvariant][warning] Invalid declaration (missing '='): 'local n'",
        "[msgvariant][warning] Unknown plural type 'odd' on 'k', using cardinal",
        "[msgvariant][warning] Plural callback returned no category for 1",
        "[msgvariant][warning] Unknown plural type 'odd' on 'k', using cardinal",
        "[msgvariant][warning] Plural callback returned no category for 1",
        "[msgvariant][warning] No matching variant entry, falling back to 'k=two'"] := by
  decide +kernel

end StoredValue

end MessageForms
