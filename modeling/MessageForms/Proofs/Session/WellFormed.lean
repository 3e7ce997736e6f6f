import MessageForms.Proofs.HostParams
import MessageForms.Proofs.Session.Lines
import MessageForms.Proofs.Variant.WellFormed

/-!
# Sessions in well-formed UTF-8

A session keeps well-formed texts only, as long as its host gives it no others: the locales of its
contexts, and the messages of the last failures. What carries this through a history is that each
call leaves such a session behind, whatever is asked, and hands back and reports well-formed texts.
-/

namespace MessageForms

open Traced

/-- The value of a parameter is well-formed if the text in it is. -/
theorem HostParam.isUtf8_of_value? {param : HostParam} (utf8 : Utf8.IsValidIfAny param.text?)
    {value : ParamValue} (isValue : param.value? = some value) : value.IsUtf8 := by
  unfold value? at isValue
  split_ifs at isValue <;> cases isValue
  · exact utf8.untilNul
  · trivial
  · trivial

/-- Parameters of a host with well-formed texts, as far as they are read. Their names do not
matter. -/
def HostParams.IsUtf8 (params : HostParams) : Prop :=
  ∀ param ∈ params.passed, Utf8.IsValidIfAny param.text?

instance : DecidablePred HostParams.IsUtf8 := fun params =>
  inferInstanceAs (Decidable (∀ param ∈ params.passed, Utf8.IsValidIfAny param.text?))

/-- Such parameters are read as well-formed values. -/
theorem HostParams.isUtf8_of_read? {params : HostParams} (utf8 : params.IsUtf8) {given : Params}
    (read : params.read? = some given) : given.IsUtf8 := by
  obtain ⟨-, rfl⟩ := read?_eq_some_iff.mp read
  intro entry member
  obtain ⟨param, inPassed, isEntry⟩ := List.mem_filterMap.mp (Dictionary.mem_ofList member)
  obtain ⟨name, -, isEntry⟩ := Option.bind_eq_some_iff.mp isEntry
  obtain ⟨value, isValue, rfl⟩ := Option.map_eq_some_iff.mp isEntry
  exact HostParam.isUtf8_of_value? (utf8 param inPassed) isValue

/-- A context with a well-formed locale and well-formed categories. -/
structure Context.IsUtf8 (context : Context) : Prop where
  locale : Utf8.isValid context.locale
  categorizer : ∀ categorizer ∈ context.categorizer?, categorizer.IsUtf8
  builtIn : context.builtIn.IsUtf8

namespace Context

variable {context : Context}

/-- A new context is such a context if the built-in rules give well-formed categories. -/
theorem isUtf8_initial {builtIn : PluralRules} (utf8 : builtIn.IsUtf8) : (initial builtIn).IsUtf8 :=
  ⟨Utf8.isValid_ofString _, nofun, utf8⟩

/-- The rules of such a context give well-formed categories, whoever is asked. -/
theorem IsUtf8.rules (utf8 : context.IsUtf8) : context.rules.IsUtf8 := by
  unfold Context.rules
  split
  next categorizer isGiven => exact PluralRules.isUtf8_ofCategorizer (utf8.categorizer _ isGiven)
  next => exact utf8.builtIn

/-- The locale of a query is well-formed, be it given or the default. -/
theorem IsUtf8.resolveLocale (utf8 : context.IsUtf8) {locale? : Option Text}
    (given : Utf8.IsValidIfAny locale?) : Utf8.isValid (context.resolveLocale locale?) := by
  unfold Context.resolveLocale
  dsimp only
  split
  next => exact utf8.locale
  next => exact given.untilNul

/-- The setting of a query is well-formed. -/
theorem IsUtf8.setting (utf8 : context.IsUtf8) {params : HostParams} (paramsUtf8 : params.IsUtf8)
    {given : Params} (read : params.read? = some given) {locale? : Option Text}
    (locale : Utf8.IsValidIfAny locale?) : (context.setting given locale?).IsUtf8 :=
  ⟨HostParams.isUtf8_of_read? paramsUtf8 read, utf8.resolveLocale locale, utf8.rules⟩

end Context

/-- An outcome with a well-formed text or message. -/
def Outcome.IsUtf8 : Outcome → Prop
  | .ok (.text content) => Utf8.isValid content
  | .ok _ => True
  | .error failure => Utf8.isValid failure.message

/-- A well-formed text is handed back well-formed. -/
theorem Outcome.isUtf8_text {content : Text} (valid : Utf8.isValid content) :
    (Outcome.text content).IsUtf8 :=
  Utf8.isValid_untilNul valid

/-- A failure has a well-formed message if what it quotes is well-formed. -/
theorem Outcome.isUtf8_error {failure : Failure} (quoted : Utf8.IsValidIfAny failure.quoted?) :
    Outcome.IsUtf8 (.error failure) :=
  Failure.isValid_message quoted

namespace Query

/-- A query in which all texts are well-formed, with a categorizer of which the same holds. -/
def IsUtf8 : Query → Prop
  | setLocale locale? => Utf8.IsValidIfAny locale?
  | setCategorizer categorizer? => ∀ categorizer ∈ categorizer?, categorizer.IsUtf8
  | render value? params locale? _ | activeKey value? params locale? _ =>
    Utf8.IsValidIfAny value? ∧ params.IsUtf8 ∧ Utf8.IsValidIfAny locale?
  | formCount value? | formKey value? _ _ => Utf8.IsValidIfAny value?
  | formTemplate value? key? _ => Utf8.IsValidIfAny value? ∧ Utf8.IsValidIfAny key?
  | activeFormEquals value? other? params locale? _ =>
    (Utf8.IsValidIfAny value? ∧ Utf8.IsValidIfAny other?) ∧ params.IsUtf8 ∧
      Utf8.IsValidIfAny locale?
  | category _ locale? _ _ => Utf8.IsValidIfAny locale?

/-- A value that must be a variant is read as a well-formed one. -/
theorem givesUtf8_requireVariant (value : Text) {next : Variant → Traced Outcome}
    (gives : ∀ variant, variant.IsUtf8 → (next variant).GivesUtf8 Outcome.IsUtf8) :
    (requireVariant value next).GivesUtf8 Outcome.IsUtf8 := by
  refine (Variant.givesUtf8_ofText? _ _).bind fun variant? utf8 => ?_
  cases variant? with
  | none => exact givesUtf8_pure (Outcome.isUtf8_error nofun)
  | some variant => exact gives variant (utf8 variant rfl)

/-- What is found is handed back, or else the failure to find it. -/
theorem isUtf8_elim {found? : Option Text} (valid : Utf8.IsValidIfAny found?) {failure : Failure}
    (quoted : Utf8.IsValidIfAny failure.quoted?) :
    Outcome.IsUtf8 (found?.elim (.error failure) Outcome.text) := by
  cases found? with
  | none => exact Outcome.isUtf8_error quoted
  | some found => exact Outcome.isUtf8_text (valid found rfl)

/-- A well-formed query to a well-formed context has a well-formed outcome. -/
theorem givesUtf8_answer {context : Context} (utf8 : context.IsUtf8) {query : Query}
    (queryUtf8 : query.IsUtf8) : (query.answer context).GivesUtf8 Outcome.IsUtf8 := by
  have fails : ∀ failure : Failure, failure.quoted? = none →
      (pure (.error failure) : Traced Outcome).GivesUtf8 Outcome.IsUtf8 :=
    fun failure unquoted => givesUtf8_pure (Outcome.isUtf8_error (unquoted ▸ nofun))
  cases query with
  | setLocale locale? =>
    refine givesUtf8_pure ?_
    split
    next => exact Outcome.isUtf8_error nofun
    next => trivial
  | setCategorizer categorizer? => exact givesUtf8_pure trivial
  | render value? params locale? output =>
    obtain ⟨value, paramsUtf8, locale⟩ := queryUtf8
    simp only [answer]
    split
    next =>
      split
      next value given read =>
        have settingUtf8 := utf8.setting paramsUtf8 read locale
        have valid := Utf8.isValid_untilNul (value _ rfl)
        refine (StoredValue.givesUtf8_render valid settingUtf8 _).bind fun text textValid => ?_
        exact givesUtf8_pure (Outcome.isUtf8_text textValid)
      next => exact fails _ rfl
    next => exact fails _ rfl
  | activeKey value? params locale? output =>
    obtain ⟨-, paramsUtf8, locale⟩ := queryUtf8
    simp only [answer]
    split
    next =>
      split
      next value given read =>
        have settingUtf8 := utf8.setting paramsUtf8 read locale
        refine givesUtf8_requireVariant _ fun variant variantUtf8 => ?_
        refine (Variant.givesUtf8_activeKey variantUtf8 settingUtf8).bind fun key valid => ?_
        exact givesUtf8_pure (isUtf8_elim valid nofun)
      next => exact fails _ rfl
    next => exact fails _ rfl
  | formCount value? =>
    cases value? with
    | none => exact fails _ rfl
    | some value => exact givesUtf8_requireVariant _ fun _ _ => givesUtf8_pure trivial
  | formKey value? index output =>
    simp only [answer]
    split
    next =>
      refine givesUtf8_requireVariant _ fun variant variantUtf8 => ?_
      split
      next =>
        refine givesUtf8_pure (isUtf8_elim (fun key found => ?_) nofun)
        exact Variant.isValid_of_mem_forms variantUtf8 (List.mem_of_getElem? found)
      next => exact fails _ rfl
    next => exact fails _ rfl
  | formTemplate value? key? output =>
    obtain ⟨-, keyValid⟩ := queryUtf8
    simp only [answer]
    split
    next value key =>
      refine givesUtf8_requireVariant _ fun variant variantUtf8 => givesUtf8_pure ?_
      refine isUtf8_elim (Variant.isValidIfAny_template? variantUtf8 _) ?_
      exact Utf8.isValidIfAny_some.mpr (Utf8.isValid_untilNul (keyValid key rfl))
    next => exact fails _ rfl
  | activeFormEquals value? other? params locale? output =>
    obtain ⟨-, paramsUtf8, locale⟩ := queryUtf8
    simp only [answer]
    split
    next =>
      split
      next given read =>
        have settingUtf8 := utf8.setting paramsUtf8 read locale
        refine givesUtf8_requireVariant _ fun variant variantUtf8 => ?_
        refine givesUtf8_requireVariant _ fun other _ => ?_
        refine (Variant.givesUtf8_activeFormEquals variantUtf8 settingUtf8 other).bind ?_
        exact fun _ _ => givesUtf8_pure trivial
      next => exact fails _ rfl
    next => exact fails _ rfl
  | category number locale? type output =>
    simp only [answer]
    split
    next =>
      refine (utf8.rules _ (utf8.resolveLocale queryUtf8)).bind fun category valid => ?_
      exact givesUtf8_pure (Outcome.isUtf8_text valid)
    next => exact fails _ rfl

/-- A well-formed query leaves a well-formed context behind. -/
theorem isUtf8_configure {context : Context} (utf8 : context.IsUtf8) {query : Query}
    (queryUtf8 : query.IsUtf8) : (query.configure context).IsUtf8 := by
  cases query with
  | setLocale locale? =>
    unfold configure
    dsimp only
    split
    next => exact utf8
    next => exact { utf8 with locale := Utf8.IsValidIfAny.untilNul queryUtf8 }
  | setCategorizer categorizer? => exact { utf8 with categorizer := queryUtf8 }
  | _ => exact utf8

end Query

/-- A request in which all texts are well-formed. -/
def Request.IsUtf8 : Request → Prop
  | ask _ query => query.IsUtf8
  | isVariant value? => Utf8.IsValidIfAny value?
  | log _ message? => Utf8.IsValidIfAny message?
  | create _ | destroy _ | setLogLevel _ | setLogCallback _ => True

/-- A call in which all texts are well-formed. -/
def Call.IsUtf8 : Call → Prop
  | .request asked => asked.IsUtf8
  | .lastCode _ | .lastMessage _ | .defaultLocale _ => True

/-- A response with a well-formed text or message. -/
def Response.IsUtf8 : Response → Prop
  | answered outcome => outcome.IsUtf8
  | done | created _ | verdict _ => True

/-- An answer with a well-formed text or message. -/
def Answer.IsUtf8 : Answer → Prop
  | .response given => given.IsUtf8
  | .code _ => True
  | .text content => Utf8.isValid content

/-- A session that keeps well-formed texts only. -/
structure Session.IsUtf8 (session : Session) : Prop where
  contexts : ∀ entry ∈ session.contexts, entry.2.IsUtf8
  failures : ∀ entry ∈ session.failures, Utf8.isValid entry.2.message
  builtIn : session.builtIn.IsUtf8

namespace Session

/-- At first a session keeps no texts at all. -/
theorem isUtf8_start {builtIn : PluralRules} (utf8 : builtIn.IsUtf8) : (start builtIn).IsUtf8 :=
  ⟨nofun, nofun, utf8⟩

section Requests

variable {session : Session} (utf8 : session.IsUtf8) (thread : ThreadId)
include utf8

/-- The context of a handle is well-formed. -/
theorem isUtf8_of_context? {id? : Option ContextId} {context : Context}
    (found : session.context? id? = some context) : context.IsUtf8 := by
  obtain ⟨id, -, found⟩ := Option.bind_eq_some_iff.mp found
  exact utf8.contexts (id, context) (Entries.mem_of_lookup found)

/-- The failure of a thread on a context has a well-formed message. -/
theorem isValid_of_failure? {id : ContextId} {failure : Failure}
    (found : session.failure? thread id = some failure) : Utf8.isValid failure.message :=
  utf8.failures ((thread, id), failure) (Entries.mem_of_lookup found)

/-- The outcome of a query is kept if its message is well-formed. -/
theorem isUtf8_note (id : ContextId) {outcome : Outcome} (outcomeUtf8 : outcome.IsUtf8) :
    (session.note thread id outcome).IsUtf8 := by
  have others : ∀ entry ∈ session.failures.filter (·.1 != (thread, id)),
      Utf8.isValid entry.2.message :=
    fun entry member => utf8.failures entry (List.mem_of_mem_filter member)
  cases outcome with
  | ok reply => exact { utf8 with failures := others }
  | error failure =>
    exact { utf8 with failures := List.forall_mem_cons.mpr ⟨outcomeUtf8, others⟩ }

/-- Destroying a context only takes away. -/
theorem isUtf8_destroy (id? : Option ContextId) : (session.destroy thread id?).IsUtf8 := by
  cases id? with
  | none => exact utf8
  | some id =>
    exact {
      contexts := fun entry member => utf8.contexts entry (List.mem_of_mem_filter member)
      failures := fun entry member => utf8.failures entry (List.mem_of_mem_filter member)
      builtIn := utf8.builtIn }

/-- A new context is well-formed. -/
theorem isUtf8_addContext : session.addContext.IsUtf8 :=
  { utf8 with
    contexts := List.forall_mem_cons.mpr ⟨Context.isUtf8_initial utf8.builtIn, utf8.contexts⟩ }

/-- A context may be replaced by a well-formed one. -/
theorem isUtf8_setContext (id : ContextId) {context : Context} (contextUtf8 : context.IsUtf8) :
    (session.setContext id context).IsUtf8 := by
  refine { utf8 with contexts := fun entry member => ?_ }
  obtain ⟨old, inContexts, rfl⟩ := List.mem_map.mp member
  split
  next => exact contextUtf8
  next => exact utf8.contexts old inContexts

/-- Creating a context reports and keeps well-formed texts, whether it succeeds or fails. -/
theorem givesUtf8_create (available : Bool) :
    (session.create thread available).GivesUtf8 fun result => result.1.IsUtf8 := by
  have added := isUtf8_addContext utf8
  cases available with
  | true =>
    have done : Outcome.IsUtf8 (.ok .done) := trivial
    exact givesUtf8_pure (isUtf8_note added thread _ done)
  | false =>
    have message : Utf8.isValid Failure.rulesUnavailable.message := Failure.isValid_message nofun
    have failed : Outcome.IsUtf8 (.error .rulesUnavailable) := message
    have noted := isUtf8_note added thread session.nextId failed
    refine (givesUtf8_report ?_).bind fun _ _ => ?_
    · exact List.forall_mem_singleton.mpr message
    · exact givesUtf8_pure (isUtf8_destroy noted thread (some session.nextId))

/-- A well-formed query keeps, reports and hands back well-formed texts. -/
theorem givesUtf8_ask (id? : Option ContextId) {query : Query} (queryUtf8 : query.IsUtf8) :
    (session.ask thread id? query).GivesUtf8 fun result => result.1.IsUtf8 ∧ result.2.IsUtf8 := by
  have missing : Outcome.IsUtf8 (.error .missingContext) := Outcome.isUtf8_error nofun
  cases id? with
  | none => exact givesUtf8_pure ⟨utf8, missing⟩
  | some id =>
    cases found : session.contexts.lookup id with
    | none =>
      simp only [ask, found]
      exact givesUtf8_pure ⟨utf8, missing⟩
    | some context =>
      have isContext : session.context? (some id) = some context := found
      have contextUtf8 := isUtf8_of_context? utf8 isContext
      have configured := Query.isUtf8_configure contextUtf8 queryUtf8
      simp only [ask, found]
      refine (Query.givesUtf8_answer contextUtf8 queryUtf8).bind fun outcome outcomeUtf8 => ?_
      have noted := isUtf8_note (isUtf8_setContext utf8 id configured) thread id outcomeUtf8
      cases outcome with
      | ok reply => exact givesUtf8_pure ⟨noted, outcomeUtf8⟩
      | error failure =>
        have message : Utf8.isValid failure.message := outcomeUtf8
        refine (givesUtf8_report ?_).bind fun _ _ => givesUtf8_pure ⟨noted, outcomeUtf8⟩
        exact List.forall_mem_singleton.mpr message

/-- A well-formed request keeps, reports and hands back well-formed texts. -/
theorem givesUtf8_perform {request : Request} (requestUtf8 : request.IsUtf8) :
    (session.perform thread request).GivesUtf8 fun result =>
      result.1.IsUtf8 ∧ result.2.IsUtf8 := by
  have relayed : ∀ relay, { session with relay }.IsUtf8 := fun _ =>
    ⟨utf8.contexts, utf8.failures, utf8.builtIn⟩
  cases request with
  | create available =>
    refine (givesUtf8_create utf8 thread available).bind fun result created => ?_
    exact givesUtf8_pure ⟨created, trivial⟩
  | destroy id? => exact givesUtf8_pure ⟨isUtf8_destroy utf8 thread id?, trivial⟩
  | ask id? query =>
    exact (givesUtf8_ask utf8 thread id? requestUtf8).bind fun result asked => givesUtf8_pure asked
  | isVariant value? =>
    cases value? with
    | none => exact givesUtf8_pure ⟨utf8, trivial⟩
    | some value =>
      refine (Variant.givesUtf8_ofText? _ _).bind fun _ _ => ?_
      exact givesUtf8_pure ⟨utf8, trivial⟩
  | setLogLevel level => exact givesUtf8_pure ⟨relayed _, trivial⟩
  | setLogCallback attached => exact givesUtf8_pure ⟨relayed _, trivial⟩
  | log level message? =>
    cases message? with
    | none => exact givesUtf8_pure ⟨utf8, trivial⟩
    | some message =>
      have valid := Utf8.isValid_untilNul (requestUtf8 message rfl)
      refine (givesUtf8_report ?_).bind fun _ _ => givesUtf8_pure ⟨utf8, trivial⟩
      exact List.forall_mem_singleton.mpr valid

/-- The message of a thread's last query is well-formed. -/
theorem isValid_lastMessage (id? : Option ContextId) :
    Utf8.isValid (session.lastMessage thread id?) := by
  have missing : Utf8.isValid Failure.missingContext.message := Failure.isValid_message nofun
  cases id? with
  | none => exact missing
  | some id =>
    unfold lastMessage
    dsimp only
    split
    next =>
      cases found : session.failure? thread id with
      | none => exact Utf8.isValid_ofString _
      | some failure => exact isValid_of_failure? utf8 thread found
    next => exact missing

/-- The default locale of a context is well-formed. -/
theorem isValid_defaultLocale (id? : Option ContextId) :
    Utf8.isValid (session.defaultLocale id?) := by
  unfold defaultLocale
  cases found : session.context? id? with
  | none => rfl
  | some context => exact (isUtf8_of_context? utf8 found).locale

section Calls

variable {call : Call} (callUtf8 : call.IsUtf8)
include callUtf8

/-- A well-formed call leaves a session behind that keeps well-formed texts only. -/
theorem isUtf8_afterCall : (session.afterCall thread call).IsUtf8 := by
  cases call with
  | request request => exact (givesUtf8_perform utf8 thread callUtf8).value.1
  | _ => exact utf8

/-- A well-formed call is answered by well-formed texts. -/
theorem isUtf8_answer : (session.answer thread call).IsUtf8 := by
  cases call with
  | request request => exact (givesUtf8_perform utf8 thread callUtf8).value.2
  | lastCode id? => trivial
  | lastMessage id? => exact isValid_lastMessage utf8 thread id?
  | defaultLocale id? => exact isValid_defaultLocale utf8 id?

/-- The lines of a well-formed call are well-formed. -/
theorem isValid_of_mem_linesOf {line : LogLine} (member : line ∈ session.linesOf thread call) :
    Utf8.isValid line.text := by
  cases call with
  | request request =>
    exact Relay.isValid_of_mem_lines (givesUtf8_perform utf8 thread callUtf8).events member
  | _ => cases member

end Calls

end Requests

/-- Over a history of well-formed calls, every answer and every line is well-formed, and so is what
the session keeps. -/
theorem isUtf8_of_history {session : Session} (utf8 : session.IsUtf8) {history : History}
    (calls : ∀ step ∈ history, step.2.IsUtf8) :
    (session.after history).IsUtf8 ∧ (∀ turn ∈ session.turns history, turn.answer.IsUtf8) ∧
      ∀ line ∈ session.received history, Utf8.isValid line.text := by
  induction history generalizing session with
  | nil => exact ⟨utf8, List.forall_mem_nil _, List.forall_mem_nil _⟩
  | cons step history inductionHypothesis =>
    obtain ⟨thread, call⟩ := step
    obtain ⟨callUtf8, laterCalls⟩ := List.forall_mem_cons.mp calls
    obtain ⟨kept, answered, lines⟩ :=
      inductionHypothesis (isUtf8_afterCall utf8 thread callUtf8) laterCalls
    rw [after, turns, received]
    refine ⟨kept, List.forall_mem_cons.mpr ⟨isUtf8_answer utf8 thread callUtf8, answered⟩, ?_⟩
    refine List.forall_mem_append.mpr ⟨fun line member => ?_, lines⟩
    exact isValid_of_mem_linesOf utf8 thread callUtf8 member

/-- How well-formed texts stay well-formed, over some built-in rules. -/
structure KeepsUtf8 (builtIn : PluralRules) : Prop where
  /-- Texts are trimmed and taken apart between characters, if at an ASCII byte. -/
  cut {text : Text} (valid : Utf8.isValid text) {mark : Byte} (ascii : Byte.isAscii mark) :
    Utf8.isValid text.trim ∧ (∀ word ∈ text.words, Utf8.isValid word) ∧
      (∀ part ∈ Text.split mark text, Utf8.isValid part) ∧
      Utf8.isValid (Text.before mark text) ∧ Utf8.IsValidIfAny (Text.after? mark text)
  /-- A text is read into a well-formed declaration, and quoted well-formed where it is none. -/
  declared {text : Text} (valid : Utf8.isValid text) : (Declaration.parse text).value.IsUtf8 ∧
    ∀ event ∈ (Declaration.parse text).events, event.IsUtf8
  /-- A key is read into well-formed clauses. -/
  keyed {key : Text} (valid : Utf8.isValid key) :
    ∀ clause ∈ PatternKey.parse key, Utf8.isValid clause.1 ∧ Utf8.isValid clause.2
  /-- Placeholders are replaced between characters. -/
  substituted {template : Text} (valid : Utf8.isValid template) {params : Params}
    (paramsUtf8 : params.IsUtf8) : Utf8.isValid (Template.substitute template params)
  /-- A variant is well-formed whatever text it is read from, and so are the reports on the text,
  wherever documents end. -/
  decoded (value : Text) (ending : Json.Ending) :
    (∀ variant ∈ (Variant.ofText? value ending).value, variant.IsUtf8) ∧
      ∀ event ∈ (Variant.ofText? value ending).events, event.IsUtf8
  /-- The same holds of a variant that is read from a value in which all strings are well-formed. -/
  restored {json : Json} (isOver : json.Over Json.Token.IsUtf8) (ending : Json.Ending) :
    (∀ variant ∈ (Variant.ofJson? json ending).value, variant.IsUtf8) ∧
      ∀ event ∈ (Variant.ofJson? json ending).events, event.IsUtf8
  /-- Whatever is shown of a well-formed variant is well-formed. -/
  shown {variant : Variant} (utf8 : variant.IsUtf8) {setting : Setting}
    (settingUtf8 : setting.IsUtf8) : variant.ShowsUtf8 setting
  /-- A stored value is rendered well-formed, with well-formed texts on the way. -/
  rendered {value : Text} (valid : Utf8.isValid value) (ending : Json.Ending) {setting : Setting}
    (settingUtf8 : setting.IsUtf8) :
    Utf8.isValid (StoredValue.render value setting ending).value ∧
      ∀ event ∈ (StoredValue.render value setting ending).events, event.IsUtf8
  /-- A host that makes well-formed calls has well-formed answers. -/
  answered {history : History} (calls : ∀ step ∈ history, step.2.IsUtf8) :
    ∀ turn ∈ (start builtIn).turns history, turn.answer.IsUtf8
  /-- It receives well-formed lines. -/
  received {history : History} (calls : ∀ step ∈ history, step.2.IsUtf8) :
    ∀ line ∈ (start builtIn).received history, Utf8.isValid line.text
  /-- Events in which well-formed texts are handed on give well-formed lines. -/
  lines {events : List Event} (utf8 : ∀ event ∈ events, event.IsUtf8) (relay : Relay) :
    ∀ line ∈ relay.lines events, Utf8.isValid line.text

/-- No text is broken inside a character. -/
theorem keepsUtf8 {builtIn : PluralRules} (utf8 : builtIn.IsUtf8) : KeepsUtf8 builtIn where
  cut valid _ ascii :=
    ⟨Utf8.isValid_trim valid, fun _ => Utf8.isValid_of_mem_words valid,
      fun _ => Utf8.isValid_of_mem_split ascii valid, Utf8.isValid_before ascii valid,
      fun _ found => (Utf8.isValid_of_after? ascii found valid).2⟩
  declared valid :=
    have gives := Declaration.givesUtf8_parse valid
    ⟨gives.value, gives.events⟩
  keyed valid _ := PatternKey.isValid_of_mem_parse valid
  substituted valid _ paramsUtf8 := Template.isValid_substitute paramsUtf8 valid
  decoded value ending :=
    have gives := Variant.givesUtf8_ofText? value ending
    ⟨gives.value, gives.events⟩
  restored isOver ending :=
    have gives := Variant.givesUtf8_ofJson? isOver ending
    ⟨gives.value, gives.events⟩
  shown utf8 _ settingUtf8 := Variant.showsUtf8 utf8 settingUtf8
  rendered valid ending _ settingUtf8 :=
    have gives := StoredValue.givesUtf8_render valid settingUtf8 ending
    ⟨gives.value, gives.events⟩
  answered calls := (isUtf8_of_history (isUtf8_start utf8) calls).2.1
  received calls := (isUtf8_of_history (isUtf8_start utf8) calls).2.2
  lines utf8 _ _ := Relay.isValid_of_mem_lines utf8

/-- A value with characters of several bytes, one of them escaped as two surrogates. -/
def foreignValue : Text :=
  Text.ofString "[\x7b\"declarations\":[\"local größe = n: plural type=ß\"]," ++
    Text.ofString "\"match\":\x7b\"größe=eins\":" ++
    Text.ofString "\"\x7bn\x7d\\ud83d\\ude00 für \x7bwer\x7d\"\x7d\x7d]"

/-- The parameters of a host with the foreign value. -/
def foreignParams : HostParams :=
  ⟨some [⟨some "n", 1, none, .one, 0⟩, ⟨some "wer", 0, some "Zoë", .zero, 0⟩], 2⟩

/-- A host that listens, has a categorizer, renders the foreign value and asks for a key that the
value does not have. -/
def foreignHost : History :=
  [(0, .request (.create true)), (0, .request (.setLogCallback true)),
    (1, .request (.ask (some 1) (.setCategorizer (some ⟨7, fun _ => some "eins"⟩)))),
    (1, .request (.ask (some 1) (.render (some foreignValue) foreignParams (some "de") true))),
    (1, .request (.ask (some 1) (.formTemplate (some foreignValue) (some "größe=zwölf") true))),
    (1, .lastMessage (some 1))]

/-- The host has well-formed answers and lines, though both are put together from characters of
several bytes. The value is rendered well-formed also where its document ends at a NUL byte. -/
theorem keepsUtf8_foreignHost :
    let categorizer : Categorizer := ⟨7, fun _ => some "eins"⟩
    let setting : Setting := ⟨foreignParams.meaning, "de", .ofCategorizer categorizer⟩
    let endedValue := foreignValue ++ Byte.nul :: "ß"
    let lines : List LogLine :=
      [⟨.warning, "[msgvariant][warning] Unknown plural type 'ß' on 'größe', using cardinal"⟩,
        ⟨.error, "[msgvariant][error] Error -32: Pattern key not found: größe=zwölf"⟩]
    (StoredValue.render foreignValue setting).value = "1😀 für Zoë" ∧
      Utf8.isValid (StoredValue.render foreignValue setting).value ∧
      (StoredValue.render endedValue setting .atNul).value = "1😀 für Zoë" ∧
      Utf8.isValid (StoredValue.render endedValue setting .atNul).value ∧
      initial.received foreignHost = lines ∧ (∀ line ∈ lines, Utf8.isValid line.text) ∧
      ∀ turn ∈ initial.turns foreignHost, turn.answer.IsUtf8 := by
  intro categorizer setting endedValue lines
  have keeps := keepsUtf8 PluralRules.isUtf8_builtIn
  have value : Utf8.isValid foreignValue := by decide +kernel
  have ended : Utf8.isValid endedValue := by decide +kernel
  have params : foreignParams.IsUtf8 := by decide +kernel
  have string : ∀ string : String, Utf8.IsValidIfAny (some (Text.ofString string)) := fun _ =>
    Utf8.isValidIfAny_some.mpr (Utf8.isValid_ofString _)
  have categorizes : categorizer.IsUtf8 := fun _ _ => string "eins"
  have settingUtf8 : setting.IsUtf8 :=
    ⟨by decide +kernel, Utf8.isValid_ofString _, PluralRules.isUtf8_ofCategorizer categorizes⟩
  have calls : ∀ step ∈ foreignHost, step.2.IsUtf8 := by
    simp only [foreignHost, List.forall_mem_cons]
    refine ⟨trivial, trivial, ?_, ⟨?_, params, ?_⟩, ⟨?_, ?_⟩, trivial, List.forall_mem_nil _⟩
    · exact fun _ same => Option.mem_some_iff.mp same ▸ categorizes
    · exact Utf8.isValidIfAny_some.mpr value
    · exact string "de"
    · exact Utf8.isValidIfAny_some.mpr value
    · exact string "größe=zwölf"
  have received : initial.received foreignHost = lines := by decide +kernel
  refine ⟨by decide +kernel, (keeps.rendered value .withText settingUtf8).1, by decide +kernel,
    (keeps.rendered ended .atNul settingUtf8).1, received, ?_, ?_⟩
  · exact received ▸ keeps.received calls
  · exact keeps.answered calls

end Session

end MessageForms
