import MessageForms.Proofs.Session.Defaults
import MessageForms.Proofs.Variant.Consultations

/-!
# What the categorizer of a host is asked

A context asks the categorizer of its host, if it has one, and otherwise the built-in rules, which
ask no host. A categorizer is never asked about what is no number: a query for the category of a
number is held back, and every other query asks what a variant asks. So it is after every history,
whatever is requested then.
-/

namespace MessageForms

/-- An event in which no host is asked about what is no number. -/
def Event.SparesHost : Event → Prop
  | consult (.host _) query => query.number.isNaN = false
  | _ => True

namespace Traced

variable {α β : Type}

/-- On the way to a value no host is asked about what is no number. -/
def SparesHost (traced : Traced α) : Prop :=
  ∀ event ∈ traced.events, event.SparesHost

@[simp] theorem sparesHost_pure (value : α) : (pure value : Traced α).SparesHost := nofun

@[simp] theorem sparesHost_report (diagnostic : Diagnostic) :
    (report diagnostic).SparesHost :=
  List.forall_mem_singleton.mpr trivial

@[simp] theorem sparesHost_bind (first : Traced α) (next : α → Traced β) :
    (first >>= next).SparesHost ↔ first.SparesHost ∧ (next first.value).SparesHost :=
  List.forall_mem_append

end Traced

namespace PluralRules

/-- Rules that ask no host about what is no number. -/
def SparesHost (rules : PluralRules) : Prop :=
  ∀ query, (rules.select query).SparesHost

/-- Rules that ask no host at all. -/
def AsksNoHost (rules : PluralRules) : Prop :=
  ∀ query tag asked, .consult (.host tag) asked ∉ (rules.select query).events

/-- The rules of the library ask no host. -/
theorem asksNoHost_builtIn : builtIn.AsksNoHost := by
  intro query tag asked member
  cases List.mem_singleton.mp member

/-- Rules that ask no host ask it about no NaN either. -/
theorem AsksNoHost.sparesHost {rules : PluralRules} (asksNoHost : rules.AsksNoHost) :
    rules.SparesHost := by
  intro query event member
  match event with
  | .report _ => trivial
  | .consult .builtIn _ => trivial
  | .consult (.host tag) asked => exact absurd member (asksNoHost query tag asked)

/-- A categorizer is asked about numbers only. -/
theorem sparesHost_ofCategorizer (categorizer : Categorizer) :
    (ofCategorizer categorizer).SparesHost := by
  intro query
  have consulted : query.number.isNaN = false →
      (Traced.event (.consult (.host categorizer.tag)
        { query with locale := query.locale.untilNul })).SparesHost :=
    fun isNumber => List.forall_mem_singleton.mpr isNumber
  unfold ofCategorizer
  cases isNumber : query.number.isNaN with
  | true => simp [isNumber]
  | false =>
    simp only [isNumber, Bool.false_eq_true, if_false, Traced.sparesHost_bind]
    refine ⟨consulted isNumber, ?_⟩
    split <;> simp

end PluralRules

/-- The rules of a context ask no host about what is no number if the built-in ones ask none. -/
theorem Context.sparesHost_rules {context : Context} (own : context.builtIn.AsksNoHost) :
    context.rules.SparesHost := by
  unfold Context.rules
  cases context.categorizer? with
  | none => exact own.sparesHost
  | some categorizer => exact PluralRules.sparesHost_ofCategorizer categorizer

/-- Reading a value asks nobody. -/
theorem Variant.sparesHost_ofText? (value : Text) (ending : Json.Ending) :
    (Variant.ofText? value ending).SparesHost := by
  intro event member
  rw [StoredValue.events_ofText?] at member
  split at member
  next =>
    obtain ⟨diagnostic, -, rfl⟩ := List.mem_map.mp member
    trivial
  next => cases member

section Rules

variable {setting : Setting} (spares : setting.rules.SparesHost)
include spares

/-- Finding the entry to show asks what its rules ask. -/
theorem Variant.sparesHost_resolve (variant : Variant) : (variant.resolve setting).SparesHost := by
  have ofSelector : ∀ selector, ∀ event ∈ variant.selectorEvents setting selector,
      event.SparesHost := by
    intro selector event member
    rcases List.mem_append.mp member with reported | asked
    · obtain ⟨diagnostic, -, rfl⟩ := List.mem_map.mp reported
      trivial
    · cases query : variant.selectorQuery? setting selector with
      | none => rw [query] at asked; cases asked
      | some query? => rw [query] at asked; exact spares _ event asked
  intro event member
  rw [events_resolve, resolveEvents] at member
  cases table : variant.table with
  | nil =>
    rw [table] at member
    obtain rfl := List.mem_singleton.mp member
    trivial
  | cons first rest =>
    rw [table] at member
    rcases List.mem_append.mp member with asked | fallback
    · obtain ⟨selector, -, inSelector⟩ := List.mem_flatMap.mp asked
      exact ofSelector selector event inSelector
    · split at fallback
      next => obtain rfl := List.mem_singleton.mp fallback; trivial
      next => cases fallback

/-- Whatever shows the entry asks no more. -/
theorem Variant.sparesHost_activeKey (variant : Variant) :
    (variant.activeKey setting).SparesHost := by
  simp [activeKey, activeEntry, sparesHost_resolve spares]

/-- Rendering a stored value asks what its rules ask. -/
theorem StoredValue.sparesHost_render (value : Text) (ending : Json.Ending) :
    (StoredValue.render value setting ending).SparesHost := by
  unfold StoredValue.render
  split
  next => simp
  next =>
    refine (Traced.sparesHost_bind _ _).mpr ⟨Variant.sparesHost_ofText? value ending, ?_⟩
    cases (Variant.ofText? value ending).value with
    | none => simp
    | some variant => simp [Variant.render, Variant.activeEntry, Variant.sparesHost_resolve spares]

end Rules

/-- A value that must be a variant is read without asking anybody. -/
theorem Query.sparesHost_requireVariant (value : Text) {next : Variant → Traced Outcome}
    (spares : ∀ variant, (next variant).SparesHost) :
    (Query.requireVariant value next).SparesHost := by
  refine (Traced.sparesHost_bind _ _).mpr ⟨Variant.sparesHost_ofText? _ _, ?_⟩
  cases (Variant.ofText? value.untilNul).value with
  | none => simp
  | some variant => exact spares variant

/-- No query has a host asked about what is no number. -/
theorem Query.sparesHost_answer {context : Context} (own : context.builtIn.AsksNoHost)
    (query : Query) : (query.answer context).SparesHost := by
  have spares := context.sparesHost_rules own
  have settingSpares : ∀ params locale?, (context.setting params locale?).rules.SparesHost :=
    fun _ _ => spares
  cases query with
  | setLocale | setCategorizer => simp [answer]
  | render value? params locale? output =>
    simp only [answer]
    split
    next =>
      split
      next => simp [StoredValue.sparesHost_render (settingSpares _ _)]
      next => simp
    next => simp
  | activeKey value? params locale? output =>
    simp only [answer]
    split
    next =>
      split
      next =>
        refine sparesHost_requireVariant _ fun variant => ?_
        simp [Variant.sparesHost_activeKey (settingSpares _ _)]
      next => simp
    next => simp
  | formCount value? =>
    cases value? with
    | none => simp [answer]
    | some value => exact sparesHost_requireVariant _ fun variant => by simp
  | formKey value? index output =>
    simp only [answer]
    split
    next =>
      refine sparesHost_requireVariant _ fun variant => ?_
      split <;> simp
    next => simp
  | formTemplate value? key? output =>
    simp only [answer]
    split
    next => exact sparesHost_requireVariant _ fun variant => by simp
    next => simp
  | activeFormEquals value? other? params locale? output =>
    simp only [answer]
    split
    next =>
      split
      next =>
        refine sparesHost_requireVariant _ fun variant => ?_
        refine sparesHost_requireVariant _ fun other => ?_
        simp [Variant.activeFormEquals, Variant.sparesHost_activeKey (settingSpares _ _)]
      next => simp
    next => simp
  | category number locale? type output =>
    cases output with
    | false => simp [answer]
    | true => simp [answer, spares _]

namespace Session

variable {builtIn : PluralRules}

/-- No request has a host asked about what is no number, if all contexts have built-in rules that
ask no host. -/
theorem sparesHost_perform {session : Session}
    (own : ∀ id context, session.context? (some id) = some context → context.builtIn.AsksNoHost)
    (thread : ThreadId) (request : Request) : (session.perform thread request).SparesHost := by
  cases request with
  | create available => cases available <;> simp [perform, create]
  | destroy id? => simp [perform]
  | ask id? query =>
    refine (Traced.sparesHost_bind _ _).mpr ⟨?_, by simp⟩
    cases id? with
    | none => simp [ask]
    | some id =>
      cases found : session.contexts.lookup id with
      | none => simp [ask, found]
      | some context =>
        have answered := Query.sparesHost_answer (own id context found) query
        simp only [ask, found, Traced.sparesHost_bind, answered, true_and]
        cases (query.answer context).value <;> simp
  | isVariant value? =>
    cases value? with
    | none => simp [perform]
    | some value => simp [perform, Variant.sparesHost_ofText?]
  | setLogLevel | setLogCallback => simp [perform]
  | log level message? => cases message? <;> simp [perform]

/-- After every history, no request has a host asked about what is no number. -/
theorem sparesHost_perform_after (asksNoHost : builtIn.AsksNoHost) (history : History)
    (thread : ThreadId) (request : Request) :
    (((start builtIn).after history).perform thread request).SparesHost := by
  apply sparesHost_perform
  intro id context found
  rw [eq_configured_of_context? found]
  exact asksNoHost

end Session

/-- How a variant consults plural rules, with some parameters and in some locale. -/
structure Variant.ConsultsAsAsked (variant : Variant) (params : Params) (locale : Text) : Prop where
  /-- Whatever they answer, the rules are put the queries of the variant and no others. -/
  exactly : ∀ (rules : PluralRules) (queries : List PluralQuery),
    (variant.resolve ⟨params, locale, rules.recording⟩).queries = queries ↔
      variant.AsksAll params locale queries
  /-- What the rules ask in turn is what they ask when they are put these queries. -/
  throughout : ∀ (rules : PluralRules) (queries : List PluralQuery),
    variant.AsksAll params locale queries →
    (variant.resolve ⟨params, locale, rules⟩).queries =
      queries.flatMap fun query => (rules.select query).queries
  /-- Whatever shows the entry asks what finding it asks. -/
  alike : ∀ (rules : PluralRules) (other : Variant),
    (variant.render ⟨params, locale, rules⟩).queries =
        (variant.resolve ⟨params, locale, rules⟩).queries ∧
      (variant.activeKey ⟨params, locale, rules⟩).queries =
        (variant.resolve ⟨params, locale, rules⟩).queries ∧
      (variant.activeFormEquals other ⟨params, locale, rules⟩).queries =
        (variant.resolve ⟨params, locale, rules⟩).queries
  /-- The variant asks about numbers only. -/
  numbers : ∀ queries, variant.AsksAll params locale queries →
    ∀ query ∈ queries, query.number.isNaN = false

/-- Plural rules are consulted exactly when and as a variant says, and never about what is no
number. No host is asked about that either, in whatever request after whatever history. -/
theorem Session.consultsAsAsked {builtIn : PluralRules} (asksNoHost : builtIn.AsksNoHost) :
    (∀ variant params locale, Variant.ConsultsAsAsked variant params locale) ∧
    (∀ value ending setting, (StoredValue.render value setting ending).queries =
      (Variant.ofText? value ending).value.elim [] fun variant =>
        (variant.resolve setting).queries) ∧
    ∀ history thread request tag query,
      .consult (.host tag) query ∈
          (((Session.start builtIn).after history).perform thread request).events →
        query.number.isNaN = false := by
  refine ⟨fun variant params locale => ?_, StoredValue.queries_render, ?_⟩
  · exact {
      exactly := variant.queries_resolve_recording params locale
      throughout := fun rules _ asked => variant.queries_resolve ⟨params, locale, rules⟩ asked
      alike := fun rules other => variant.queries_of_shown ⟨params, locale, rules⟩ other
      numbers := fun _ asked _ member => asked.isNumber member }
  · intro history thread request tag query asked
    exact Session.sparesHost_perform_after asksNoHost history thread request _ asked

/-- A selector that occurs twice, one that is the plural of no number, one that an input hides from
a later plural, and a host whose categorizer is asked for the category of a number. -/
theorem Session.consultsAsAsked_hiddenPlural :
    let declarations : List Declaration :=
      [.derived ⟨"k", "n", "plural", .ofList [("type", "ordinal")]⟩,
        .derived ⟨"l", "word", "plural", .ofList []⟩, .input "m",
        .derived ⟨"m", "n", "plural", .ofList []⟩]
    let variant : Variant := ⟨declarations, ["k", "l", "m", "k"], [("k=one", "first")]⟩
    let params : Params := .ofList [("n", .flag true), ("word", .text "many")]
    let query : PluralQuery := ⟨.one, "en", .ordinal⟩
    let history : History := [(0, .request (.create true)),
      (1, .request (.ask (some 1) (.setCategorizer (some ⟨7, fun _ => none⟩))))]
    let request : Request := .ask (some 1) (.category .one none .ordinal true)
    (variant.resolve ⟨params, "en", PluralRules.builtIn.recording⟩).queries = [query, query] ∧
      variant.AsksAll params "en" [query, query] ∧
      .consult (.host 7) query ∈ ((initial.after history).perform 1 request).events ∧
      query.number.isNaN = false := by
  intro declarations variant params query history request
  have consults := consultsAsAsked PluralRules.asksNoHost_builtIn
  have recorded : (variant.resolve ⟨params, "en", PluralRules.builtIn.recording⟩).queries =
      [query, query] := by decide +kernel
  have asked : .consult (.host 7) query ∈ ((initial.after history).perform 1 request).events := by
    decide +kernel
  exact ⟨recorded, ((consults.1 variant params "en").exactly _ _).mp recorded, asked,
    consults.2.2 history 1 request 7 query asked⟩

end MessageForms
