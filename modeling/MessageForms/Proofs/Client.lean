import MessageForms.Client
import MessageForms.Proofs.ParamList
import MessageForms.Proofs.Query.Forms
import MessageForms.Proofs.Session.Defaults
import MessageForms.Proofs.Session.LastError

/-!
# What a client gets from its session

A client puts the queries of its holders to a session. It throws exactly if a query fails, and
what it throws is what the session then tells of the failure. Parameters reach the engine as
they were given last, so rendering on a context never throws and gives what the engine renders.
The keys of all forms take a query each, but none of these fails if counting the forms did not.
-/

namespace MessageForms

/-- The exception that a failure becomes. -/
def Failure.thrown (failure : Failure) : Thrown := ⟨failure.code, failure.message⟩

/-- No failure is without a message. -/
theorem Failure.message_ne_nil (failure : Failure) : failure.message ≠ [] := by
  cases failure with
  | keyNotFound key => exact List.append_ne_nil_of_left_ne_nil (by decide +kernel) key
  | _ => decide +kernel

namespace Client

/-- The context of a holder, if it owns one. -/
def context? (client : Client) (holder : Text) : Option Context :=
  client.session.context? (client.held holder)

section Queries

variable (client : Client) (holder : Text) (query : Query)

/-- A query is put to the session. -/
theorem session_query : (client.query holder query).1.session =
    (client.session.ask thread (client.held holder) query).value.1 := rfl

/-- A query has the outcome that it has in the session. -/
theorem outcome_query : (client.query holder query).2 =
    (client.session.ask thread (client.held holder) query).value.2 := rfl

/-- A query leaves to every holder what it owns. -/
theorem held_query (other : Text) :
    (client.query holder query).1.held other = client.held other := rfl

/-- After a query, its outcome is the last error. -/
theorem lastError_query :
    (client.query holder query).1.lastError holder =
      (Outcome.code (client.query holder query).2,
        Outcome.message (client.query holder query).2) := by
  rw [lastError, held_query, session_query, outcome_query]
  cases client.held holder with
  | none => rfl
  | some id =>
    exact Prod.ext (Session.lastCode_afterCall_ask query) (Session.lastMessage_afterCall_ask query)

/-- Asking throws what the failure of the query becomes. -/
theorem ask_eq : client.ask holder query =
    ((client.query holder query).1, (client.query holder query).2.mapError Failure.thrown) := by
  have last := client.lastError_query holder query
  rw [ask]
  cases put : client.query holder query with
  | mk after outcome =>
    rw [put] at last
    cases outcome with
    | ok reply => rfl
    | error failure =>
      dsimp only at last ⊢
      rw [last]
      rfl

/-- A query that asks a question leaves its holder the context. -/
theorem context?_query_of_isEvaluation (evaluation : query.IsEvaluation) :
    (client.query holder query).1.context? holder = client.context? holder := by
  rw [context?, context?, held_query, session_query]
  cases client.held holder with
  | none => rfl
  | some id =>
    have evaluates : Call.IsEvaluation (.request (.ask (some id) query)) := evaluation
    exact Session.context?_afterCall_of_isEvaluation evaluates thread id

variable {client holder}

/-- A query to a holder with a context is answered by it. -/
theorem outcome_query_of_live {context : Context} (live : client.context? holder = some context) :
    (client.query holder query).2 = (query.answer context).value := by
  rw [outcome_query]
  rw [context?] at live
  cases owned : client.held holder with
  | none =>
    rw [owned] at live
    cases live
  | some id =>
    rw [owned] at live
    exact Session.outcome_of_live client.session thread id live query

/-- A query to a holder without a context fails. -/
theorem outcome_query_of_missing (missing : client.context? holder = none) :
    (client.query holder query).2 = .error .missingContext := by
  rw [outcome_query]
  rw [context?] at missing
  cases owned : client.held holder with
  | none => rfl
  | some id =>
    rw [owned] at missing
    rw [Session.value_ask_of_missing client.session thread id missing]

variable {query}

/-- A query that has an outcome by the way it ends on the context has this outcome. -/
theorem outcome_query_of_endsWith {context : Context}
    (live : client.context? holder = some context) {outcome : Outcome}
    (ends : query.EndsWith context outcome) : (client.query holder query).2 = outcome :=
  (outcome_query_of_live query live).trans ends.value_answer

variable (client holder)

/-- A query that counts no forms returns the code of its outcome. -/
theorem returned_query_eq_code (noCount : ∀ value?, query ≠ .formCount value?) :
    query.returned (client.query holder query).2 =
      Outcome.code (client.query holder query).2 := by
  cases live : client.context? holder with
  | none =>
    rw [outcome_query_of_missing query live]
    cases query with
    | formCount value? => exact absurd rfl (noCount value?)
    | _ => rfl
  | some context =>
    rw [outcome_query_of_live query live]
    exact (query.endsWith_answer context).returned_eq_code noCount

/-- Counting forms returns a negative number exactly if it fails. -/
theorem returned_query_formCount (value? : Option Text) :
    (Query.formCount value?).returned (client.query holder (.formCount value?)).2 < 0 ↔
      Outcome.code (client.query holder (.formCount value?)).2 ≠ Failure.success := by
  rw [← Int.not_le]
  cases live : client.context? holder with
  | none =>
    rw [outcome_query_of_missing _ live]
    exact iff_of_true (by decide : ¬ (0 : Int) ≤ -1) Failure.missingContext.code_ne_success
  | some context =>
    rw [outcome_query_of_live _ live]
    exact not_congr ((Query.formCount value?).endsWith_answer context).returned_formCount

end Queries

/-- What comes of a query that is put through: its reply, as it is read, or an exception. -/
structure PutsThrough {α : Type} (client : Client) (holder : Text) (query : Query)
    (read : Reply → α) (result : Client × Except Thrown α) : Prop where
  /-- Nothing but the query happens. -/
  after : result.1 = (client.query holder query).1
  /-- A reply is handed back. -/
  reply (reply : Reply) (replied : (client.query holder query).2 = .ok reply) :
    result.2 = .ok (read reply)
  /-- An exception is thrown exactly if a failure is returned. -/
  throws : (∃ thrown, result.2 = .error thrown) ↔
    query.returned (client.query holder query).2 ≠ Failure.success
  /-- The exception has the code that was returned, and the message of the last error. -/
  thrown (thrown : Thrown) (isThrown : result.2 = .error thrown) :
    thrown.code = query.returned (client.query holder query).2 ∧
      result.1.lastError holder = (thrown.code, thrown.message)

/-- Asking puts a query through that counts no forms. -/
theorem putsThrough_ask {α : Type} (client : Client) (holder : Text) {query : Query}
    (noCount : ∀ value?, query ≠ .formCount value?) (read : Reply → α) :
    client.PutsThrough holder query read
      ((client.ask holder query).1, (client.ask holder query).2.map read) := by
  have last := client.lastError_query holder query
  have returned := client.returned_query_eq_code holder noCount
  rw [ask_eq]
  cases outcome : (client.query holder query).2 with
  | ok reply =>
    rw [outcome] at returned
    refine ⟨rfl, ?_, ?_, nofun⟩
    · intro other replied
      cases outcome.symm.trans replied
      rfl
    · rw [outcome]
      exact iff_of_false nofun (not_not_intro returned)
  | error failure =>
    rw [outcome] at last returned
    refine ⟨rfl, ?_, ?_, ?_⟩
    · intro reply replied
      cases outcome.symm.trans replied
    · rw [outcome]
      exact iff_of_true ⟨failure.thrown, rfl⟩ (returned.trans_ne failure.code_ne_success)
    · intro thrown isThrown
      cases isThrown
      rw [outcome]
      exact ⟨returned.symm, last⟩

section Forms

variable {client : Client} {holder value : Text}

/-- The keys at indices that a variant has are handed out one after the other. -/
theorem formKeysAt_of_live {context : Context} (live : client.context? holder = some context)
    {variant : Variant} (decoded : StoredValue.variant? value = some variant)
    {indices : List Nat} {keys : List Text}
    (listed : List.Forall₂ (fun index key => variant.forms[index]? = some key) indices keys) :
    (client.formKeysAt holder value indices).2 = .ok (keys.map Text.untilNul) := by
  induction listed generalizing client with
  | nil => rfl
  | @cons index key indices keys found _ inductionHypothesis =>
    rw [Variant.forms, List.getElem?_map, Option.map_eq_some_iff] at found
    obtain ⟨entry, isEntry, rfl⟩ := found
    have first : (client.query holder (.formKey (some value) index true)).2 =
        Outcome.text entry.1 :=
      outcome_query_of_endsWith live (.keyListed decoded (Int.natCast_nonneg index) isEntry)
    -- The next key is asked of the same context, and the value is decoded to the same variant.
    have stillLive := (client.context?_query_of_isEvaluation holder
      (.formKey (some value) index true) trivial).trans live
    have rest := inductionHypothesis stillLive
    rw [formKeysAt, askText, ask_eq, first]
    exact congrArg (Except.map (entry.1.untilNul :: ·)) rest

/-- Counting the forms of a value fails, or there is a context and the value is a variant. -/
theorem outcome_formCount (client : Client) (holder value : Text) :
    (∃ failure, (client.query holder (.formCount (some value))).2 = .error failure) ∨
      ∃ context variant, client.context? holder = some context ∧
        StoredValue.variant? value = some variant ∧
        (client.query holder (.formCount (some value))).2 =
          .ok (.count variant.table.length) := by
  cases live : client.context? holder with
  | none => exact .inl ⟨_, outcome_query_of_missing _ live⟩
  | some context =>
    cases decoded : StoredValue.variant? value with
    | none => exact .inl ⟨_, outcome_query_of_endsWith live (.countOfTemplate decoded)⟩
    | some variant =>
      exact .inr ⟨context, variant, rfl, rfl, outcome_query_of_endsWith live (.counted decoded)⟩

/-- If the forms cannot be counted, no key is asked for, and what is thrown is the last error. -/
theorem formKeys_of_error {failure : Failure}
    (failed : (client.query holder (.formCount (some value))).2 = .error failure) :
    client.formKeys holder value =
      ((client.query holder (.formCount (some value))).1, .error failure.thrown) := by
  have last := client.lastError_query holder (.formCount (some value))
  rw [failed] at last
  -- The count failed with a code and a message, so nothing has to stand in for them.
  have thrown : (client.query holder (.formCount (some value))).1.lastThrown holder
      "FormKeys failed" = failure.thrown := by
    simp only [lastThrown, last, Outcome.code, Outcome.message, if_neg failure.code_ne_success,
      if_neg failure.message_ne_nil]
    rfl
  have negative := (client.returned_query_formCount holder (some value)).mpr
    (failed ▸ failure.code_ne_success)
  simp only [formKeys, if_pos negative, thrown]

/-- The keys of a variant are those of its entries, each as far as it can be handed out. -/
theorem formKeys_of_live {context : Context} (live : client.context? holder = some context)
    {variant : Variant} (decoded : StoredValue.variant? value = some variant) :
    (client.formKeys holder value).2 = .ok (variant.forms.map Text.untilNul) := by
  have counted : (client.query holder (.formCount (some value))).2 =
      .ok (.count variant.table.length) := outcome_query_of_endsWith live (.counted decoded)
  have stillLive := (client.context?_query_of_isEvaluation holder (.formCount (some value))
    trivial).trans live
  have listed : List.Forall₂ (fun index key => variant.forms[index]? = some key)
      (List.range variant.table.length) variant.forms := by
    refine List.forall₂_iff_get.mpr ⟨by simp [Variant.forms], fun index _ inside => ?_⟩
    simp [List.getElem?_eq_getElem inside]
  have positive : ¬ (Query.formCount (some value)).returned
      (client.query holder (.formCount (some value))).2 < 0 := by
    rw [counted]
    exact Int.not_lt.mpr (Int.natCast_nonneg _)
  simp only [formKeys, if_neg positive]
  rw [counted]
  exact formKeysAt_of_live stillLive decoded listed

/-- What comes of asking for the keys of all forms of a value. -/
structure ListsKeys (client : Client) (holder value : Text) : Prop where
  /-- An exception is thrown exactly if the forms cannot be counted. -/
  throws : (∃ thrown, (client.formKeys holder value).2 = .error thrown) ↔
    (Query.formCount (some value)).returned
      (client.query holder (.formCount (some value))).2 < 0
  /-- Then nothing but the counting happens, and the exception is the last error after it. -/
  thrown (thrown : Thrown) (isThrown : (client.formKeys holder value).2 = .error thrown) :
    (client.formKeys holder value).1 = (client.query holder (.formCount (some value))).1 ∧
      (client.query holder (.formCount (some value))).1.lastError holder =
        (thrown.code, thrown.message)
  /-- Otherwise the keys of all entries are handed back in order, as many as were counted. -/
  listed (keys : List Text) (isListed : (client.formKeys holder value).2 = .ok keys) :
    (Query.formCount (some value)).returned
        (client.query holder (.formCount (some value))).2 = keys.length ∧
      ∃ variant, StoredValue.variant? value = some variant ∧
        keys = variant.forms.map Text.untilNul

/-- No key is missing, and none fails to be handed out. -/
theorem listsKeys (client : Client) (holder value : Text) : client.ListsKeys holder value := by
  have last := client.lastError_query holder (.formCount (some value))
  have negative := client.returned_query_formCount holder (some value)
  obtain ⟨failure, failed⟩ | ⟨context, variant, live, decoded, counted⟩ :=
    client.outcome_formCount holder value
  · have throws := formKeys_of_error failed
    rw [failed] at last negative
    refine ⟨?_, ?_, ?_⟩
    · rw [throws, failed]
      exact iff_of_true ⟨_, rfl⟩ (negative.mpr failure.code_ne_success)
    · rw [throws]
      intro thrown isThrown
      cases isThrown
      exact ⟨rfl, last⟩
    · rw [throws]
      nofun
  · have lists := formKeys_of_live live decoded
    refine ⟨?_, ?_, ?_⟩
    · rw [lists, counted]
      exact iff_of_false nofun (Int.not_lt.mpr (Int.natCast_nonneg _))
    · rw [lists]
      nofun
    · rw [lists, counted]
      intro keys isListed
      cases isListed
      exact ⟨by simp [Query.returned, Variant.forms], variant, decoded, rfl⟩

end Forms

/-- How a client passes on what its holders ask for, and what comes back. -/
structure RefinesEngine (client : Client) (holder : Text) : Prop where
  /-- Parameters are passed on as they were given last. -/
  params (given : List (Text × GivenValue)) : ParamList.PassesLatest given
  /-- On a context, rendering throws nothing and gives what the engine renders. -/
  rendered {context : Context} (live : client.context? holder = some context) (value : Text)
    (wholeValue : Byte.nul ∉ value) (given : List (Text × GivenValue))
    (whole : ParamList.AreWhole given) (params : Params)
    (latest : ∀ name, params.find? name = (ParamList.values given).reverse.lookup name)
    (locale? : Option Text) :
    (client.render holder value (.ofGiven given) locale?).2 =
      .ok (StoredValue.render value
        ⟨params, context.resolveLocale locale?, context.rules⟩).value.untilNul
  /-- Rendering puts its query through. -/
  render (value : Text) (list : ParamList) (locale? : Option Text) :
    client.PutsThrough holder (.render (some value) list.toHost locale? true) replyText
      (client.render holder value list locale?)
  /-- Detecting the active key puts its query through. -/
  activeKey (value : Text) (list : ParamList) (locale? : Option Text) :
    client.PutsThrough holder (.activeKey (some value) list.toHost locale? true) replyText
      (client.activeKey holder value list locale?)
  /-- The keys of all forms take a query each, and only counting the forms can fail. -/
  formKeys (value : Text) : client.ListsKeys holder value
  /-- Asking for a template puts its query through. -/
  formTemplate (value key : Text) :
    client.PutsThrough holder (.formTemplate (some value) (some key) true) replyText
      (client.formTemplate holder value key)
  /-- Comparing active forms puts its query through. -/
  activeFormEquals (value other : Text) (list : ParamList) (locale? : Option Text) :
    client.PutsThrough holder
      (.activeFormEquals (some value) (some other) list.toHost locale? true)
      (fun reply => reply == .verdict true)
      (client.activeFormEquals holder value other list locale?)
  /-- Asking for the category of a number puts its query through. -/
  category (number : Double) (locale? : Option Text) (type : PluralType) :
    client.PutsThrough holder (.category number locale? type true) replyText
      (client.category holder number locale? type)
  /-- Setting the locale puts its query through. -/
  setLocale (locale : Text) :
    client.PutsThrough holder (.setLocale (some locale)) (fun _ => ())
      (client.setLocale holder locale)
  /-- Setting the categorizer puts its query through. -/
  setCategorizer (categorizer? : Option Categorizer) :
    client.PutsThrough holder (.setCategorizer categorizer?) (fun _ => ())
      (client.setCategorizer holder categorizer?)

/-- Rendering on a context gives what the engine renders, whatever the value is. -/
theorem render_of_live {client : Client} {holder : Text} {context : Context}
    (live : client.context? holder = some context) {value : Text}
    (wholeValue : Byte.nul ∉ value) {given : List (Text × GivenValue)}
    (whole : ParamList.AreWhole given) {params : Params}
    (latest : ∀ name, params.find? name = (ParamList.values given).reverse.lookup name)
    (locale? : Option Text) :
    (client.render holder value (.ofGiven given) locale?).2 =
      .ok (StoredValue.render value
        ⟨params, context.resolveLocale locale?, context.rules⟩).value.untilNul := by
  have same : params = .ofList (ParamList.values given) :=
    Dictionary.ext_find? fun name => (latest name).trans (Dictionary.find?_ofList _ name).symm
  have valueEnds : value.untilNul = value := Text.before_of_not_mem wholeValue
  have ends : (Query.render (some value) (ParamList.ofGiven given).toHost locale? true).EndsWith
      context (Outcome.text (StoredValue.render value.untilNul
        (context.setting (.ofList (ParamList.values given)) locale?)).value) :=
    .rendered (ParamList.read?_toHost_ofGiven whole)
  rw [valueEnds, ← same] at ends
  rw [render, askText, ask_eq, outcome_query_of_endsWith live ends]
  rfl

/-- Whatever has happened before, and whether a holder has a context or not, a client gives what
the engine gives. -/
theorem refinesEngine (client : Client) (holder : Text) : client.RefinesEngine holder where
  params given := ParamList.passesLatest given
  rendered live _ wholeValue _ whole _ latest locale? :=
    render_of_live live wholeValue whole latest locale?
  render _ _ _ := client.putsThrough_ask holder (by nofun) replyText
  activeKey _ _ _ := client.putsThrough_ask holder (by nofun) replyText
  formKeys value := client.listsKeys holder value
  formTemplate _ _ := client.putsThrough_ask holder (by nofun) replyText
  activeFormEquals _ _ _ _ := client.putsThrough_ask holder (by nofun) _
  category _ _ _ := client.putsThrough_ask holder (by nofun) replyText
  setLocale _ := client.putsThrough_ask holder (by nofun) _
  setCategorizer _ := client.putsThrough_ask holder (by nofun) _

/-- A client with one holder, which has a context. -/
def withOneHolder : Client := ((ofSession .initial).construct "c" true).1

/-- Values for two names, one of which is first a number and then a text. -/
def retyped : List (Text × GivenValue) :=
  [("n", .integer 1), ("m", .flag true), ("n", .terminated (some "x"))]

/-- The name that was first a number comes first and means its text. A plain template can be
rendered with it, but has no keys. -/
theorem refinesEngine_withOneHolder :
    ((ParamList.ofGiven retyped).map ParamList.hostParam).map HostParam.name? =
        [some (Text.ofString "n"), some (Text.ofString "m")] ∧
      (withOneHolder.render "c" "\x7bn\x7d, \x7bm\x7d" (.ofGiven retyped) none).2 =
        .ok (Text.ofString "x, true") ∧
      ∃ thrown, (withOneHolder.formKeys "c" "a").2 = .error thrown ∧
        thrown.code = Failure.notVariant.code := by
  have refines := refinesEngine withOneHolder "c"
  have live : withOneHolder.context? "c" = some (.initial .builtIn) := by rfl
  have whole : ParamList.AreWhole retyped := by
    intro step member
    simp only [retyped, List.mem_cons, List.not_mem_nil, or_false] at member
    obtain rfl | rfl | rfl := member
    · exact ⟨by decide +kernel, nofun⟩
    · exact ⟨by decide +kernel, nofun⟩
    · refine ⟨by decide +kernel, fun content same => ?_⟩
      cases same
      decide +kernel
  have rendered := refines.rendered live "\x7bn\x7d, \x7bm\x7d" (by decide +kernel) retyped whole
    _ (Dictionary.find?_ofList _) none
  obtain ⟨thrown, isThrown⟩ := (refines.formKeys "a").throws.mpr (by decide +kernel)
  have last := ((refines.formKeys "a").thrown thrown isThrown).2
  refine ⟨(refines.params retyped).names.trans (by decide +kernel),
    rendered.trans (by decide +kernel), thrown, isThrown, ?_⟩
  exact (congrArg Prod.fst last).symm.trans (by decide +kernel)

end Client

end MessageForms
