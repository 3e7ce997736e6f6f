import MessageForms.Proofs.HostParams
import MessageForms.Proofs.Query.Endings
import MessageForms.Proofs.Session.Slots
import MessageForms.Proofs.Variant.Agreement

/-!
# Why queries fail

A query fails if an argument is missing or malformed, or else because its question has no
answer. A stored value may hold any bytes: at worst it is a plain template, which can be
rendered and has no forms. Nothing of an answer is handed out after a failure.
-/

namespace MessageForms

namespace Query

/-- A query that lacks an argument, or whose parameters are malformed. -/
def IsMisused : Query → Prop
  | setLocale locale? => (locale?.getD []).untilNul = []
  | setCategorizer _ => False
  | render value? params _ output | activeKey value? params _ output =>
    value? = none ∨ output = false ∨ ¬ params.IsWellFormed
  | formCount value? => value? = none
  | formKey value? _ output => value? = none ∨ output = false
  | formTemplate value? key? output => value? = none ∨ key? = none ∨ output = false
  | activeFormEquals value? other? params _ output =>
    value? = none ∨ other? = none ∨ output = false ∨ ¬ params.IsWellFormed
  | category _ _ _ output => output = false

/-- The values that must be variants for a query to have an answer. -/
def variantValues : Query → List Text
  | activeKey value? .. | formCount value? | formKey value? .. | formTemplate value? .. =>
    value?.toList
  | activeFormEquals value? other? .. => value?.toList ++ other?.toList
  | _ => []

variable {context : Context} {query : Query} {outcome : Outcome}

/-- Misuse is noticed first. -/
theorem EndsWith.code_of_isMisused (ends : query.EndsWith context outcome)
    (misused : query.IsMisused) : Outcome.code outcome = Failure.invalidParams.code := by
  cases ends <;> simp_all [IsMisused, Outcome.code, Failure.code, ← HostParams.read?_eq_none_iff]

/-- Whether values are variants is noticed next. -/
theorem EndsWith.code_eq_notVariant_iff (ends : query.EndsWith context outcome) :
    Outcome.code outcome = Failure.notVariant.code ↔
      ¬ query.IsMisused ∧ ∃ value ∈ query.variantValues, StoredValue.variant? value = none := by
  cases ends with
  | comparisonWithoutArgument absent =>
    -- It is misused whichever of the three is absent.
    refine iff_of_false nofun fun both => both.1 ?_
    exact absent.imp_right (Or.imp_right Or.inl)
  | _ =>
    simp_all [IsMisused, variantValues, Outcome.code, Outcome.text, Failure.code,
      Failure.success, ← HostParams.read?_eq_none_iff]

/-- Rendering fails on misuse only. -/
theorem EndsWith.render_ok_iff {value? : Option Text} {params : HostParams}
    {locale? : Option Text} {output : Bool}
    (ends : (render value? params locale? output).EndsWith context outcome) :
    Outcome.code outcome = Failure.success ↔ ¬ (render value? params locale? output).IsMisused := by
  cases ends <;> simp_all [IsMisused, Outcome.code, Outcome.text, Failure.code, Failure.success,
    ← HostParams.read?_eq_none_iff]

/-- Detection fails on misuse, on a plain template, and on a variant without entries. -/
theorem EndsWith.activeKey_iff {value? : Option Text} {params : HostParams}
    {locale? : Option Text} {output : Bool}
    (ends : (activeKey value? params locale? output).EndsWith context outcome) :
    (Outcome.code outcome = Failure.invalidParams.code ↔
        (activeKey value? params locale? output).IsMisused) ∧
      (Outcome.code outcome = Failure.noActiveKey.code ↔
        ¬ (activeKey value? params locale? output).IsMisused ∧
          ∃ variant, value?.bind StoredValue.variant? = some variant ∧ variant.table = []) ∧
      (Outcome.code outcome = Failure.success ↔
        ¬ (activeKey value? params locale? output).IsMisused ∧
          ∃ variant, value?.bind StoredValue.variant? = some variant ∧ variant.table ≠ []) := by
  cases ends with
  | activeKeyMissing read decoded missing =>
    rw [Variant.activeKey_eq_none_iff] at missing
    simp_all [IsMisused, Outcome.code, Failure.code, Failure.success,
      ← HostParams.read?_eq_none_iff]
  | activeKeyFound read decoded found =>
    have isSome : _ ≠ none := ne_of_eq_of_ne found (Option.some_ne_none _)
    have nonempty := (Variant.activeKey_eq_none_iff _ _).not.mp isSome
    simp_all [IsMisused, Outcome.code, Outcome.text, Failure.code, Failure.success,
      ← HostParams.read?_eq_none_iff]
  | _ =>
    simp_all [IsMisused, Outcome.code, Failure.code, Failure.success,
      ← HostParams.read?_eq_none_iff]

/-- Comparison fails on misuse and on plain templates. -/
theorem EndsWith.activeFormEquals_iff {value? other? : Option Text} {params : HostParams}
    {locale? : Option Text} {output : Bool}
    (ends : (activeFormEquals value? other? params locale? output).EndsWith context outcome) :
    (Outcome.code outcome = Failure.invalidParams.code ↔
        (activeFormEquals value? other? params locale? output).IsMisused) ∧
      (Outcome.code outcome = Failure.success ↔
        ¬ (activeFormEquals value? other? params locale? output).IsMisused ∧
          ∃ left right, value?.bind StoredValue.variant? = some left ∧
            other?.bind StoredValue.variant? = some right) := by
  cases ends with
  | comparisonWithoutArgument absent =>
    have misused : (activeFormEquals value? other? params locale? output).IsMisused :=
      absent.imp_right (Or.imp_right Or.inl)
    simp [misused, Outcome.code, Failure.code, Failure.success]
  | @comparisonOfTemplate value other _ given _ read plain =>
    have undecoded : ¬ ∃ left right, (some value).bind StoredValue.variant? = some left ∧
        (some other).bind StoredValue.variant? = some right := by
      rintro ⟨left, right, decoded, otherDecoded⟩
      exact plain.elim (ne_of_eq_of_ne decoded (Option.some_ne_none _))
        (ne_of_eq_of_ne otherDecoded (Option.some_ne_none _))
    simp_all [IsMisused, Outcome.code, Failure.code, Failure.success,
      ← HostParams.read?_eq_none_iff]
  | _ =>
    simp_all [IsMisused, Outcome.code, Failure.code, Failure.success,
      ← HostParams.read?_eq_none_iff]

/-- A failure hands out no answer. -/
theorem output_of_error (query : Query) (failure : Failure) :
    query.output (.error failure) = .untouched ∨ query.output (.error failure) = .cleared ∨
      query.output (.error failure) = .integer 0 := by
  by_cases early : precedesClearing failure
  · exact .inl (by simp [output, early])
  · cases query <;> simp [output, early]

/-- Rendering that fails clears the place for the text. -/
theorem EndsWith.output_render {value? : Option Text} {params : HostParams}
    {locale? : Option Text} {output : Bool} {failure : Failure}
    (ends : (render value? params locale? output).EndsWith context (.error failure)) :
    (render value? params locale? output).output (.error failure) =
      if output then .cleared else .untouched := by
  cases ends <;> rfl

/-- Detection that fails clears the place for the key. -/
theorem EndsWith.output_activeKey {value? : Option Text} {params : HostParams}
    {locale? : Option Text} {output : Bool} {failure : Failure}
    (ends : (activeKey value? params locale? output).EndsWith context (.error failure)) :
    (activeKey value? params locale? output).output (.error failure) =
      if output then .cleared else .untouched := by
  cases ends <;> rfl

/-- A comparison that fails says that the forms differ, unless an argument is missing. -/
theorem EndsWith.output_activeFormEquals {value? other? : Option Text} {params : HostParams}
    {locale? : Option Text} {output : Bool} {failure : Failure}
    (ends : (activeFormEquals value? other? params locale? output).EndsWith context
      (.error failure)) :
    (activeFormEquals value? other? params locale? output).output (.error failure) =
      if value?.isSome ∧ other?.isSome ∧ output then .integer 0 else .untouched := by
  cases ends with
  | comparisonWithoutArgument absent =>
    refine (if_neg ?_).symm
    rintro ⟨value, other, given⟩
    obtain rfl | rfl | rfl := absent
    · cases value
    · cases other
    · cases given
  | _ => rfl

end Query

/-- The message of an outcome. -/
def Outcome.message : Outcome → Text
  | .ok _ => Failure.successMessage
  | .error failure => failure.message

namespace Slot

variable (slot : Slot) (thread : ThreadId) (query : Query)

/-- After a query, its thread reads the code of its outcome. -/
theorem lastCode_ask :
    (slot.ask thread query).lastCode thread = Outcome.code (slot.outcome query) := by
  rw [ask, outcome]
  cases found : slot.context? with
  | none => simp [lastCode, found, Outcome.code]
  | some context =>
    cases answered : (query.answer context).value <;>
      simp [lastCode, note, answered, Outcome.failure?, Outcome.code]

/-- After a query, its thread reads the message of its outcome. -/
theorem lastMessage_ask :
    (slot.ask thread query).lastMessage thread = Outcome.message (slot.outcome query) := by
  rw [ask, outcome]
  cases found : slot.context? with
  | none => simp [lastMessage, found, Outcome.message]
  | some context =>
    cases answered : (query.answer context).value <;>
      simp [lastMessage, note, answered, Outcome.failure?, Outcome.message]

end Slot

namespace Session

variable {session : Session} {thread : ThreadId} {id : ContextId} {context : Context}

/-- A query to a context ends in one of the ways listed. -/
theorem endsWith_outcome (live : session.context? (some id) = some context) (thread : ThreadId)
    (query : Query) :
    query.EndsWith context (session.outcome thread id query) := by
  rw [outcome_of_live session thread id live]
  exact query.endsWith_answer context

/-- A query to a context has the outcome of the way in which it ends. -/
theorem outcome_of_endsWith (live : session.context? (some id) = some context) {query : Query}
    {outcome : Outcome} (ends : query.EndsWith context outcome) :
    session.outcome thread id query = outcome :=
  (outcome_of_live session thread id live query).trans ends.value_answer

/-- After a query, its code is the last one. -/
theorem lastCode_afterCall_ask (query : Query) :
    (session.afterCall thread (.request (.ask (some id) query))).lastCode thread (some id) =
      Outcome.code (session.outcome thread id query) := by
  rw [lastCode_eq, outcome_eq_slot_outcome, slot_afterCall, ← Slot.lastCode_ask]
  exact congrArg (Slot.lastCode · thread) (if_pos rfl)

/-- After a query, its message is the last one. -/
theorem lastMessage_afterCall_ask (query : Query) :
    (session.afterCall thread (.request (.ask (some id) query))).lastMessage thread (some id) =
      Outcome.message (session.outcome thread id query) := by
  rw [lastMessage_eq, outcome_eq_slot_outcome, slot_afterCall, ← Slot.lastMessage_ask]
  exact congrArg (Slot.lastMessage · thread) (if_pos rfl)

section Written

variable (live : session.context? (some id) = some context) (thread : ThreadId)
  {params : HostParams} (wellFormed : params.IsWellFormed) (locale? : Option Text)
include live wellFormed

/-- A value is rendered, whatever its bytes are. -/
theorem outcome_render (value : Text) :
    session.outcome thread id (.render (some value) params locale? true) =
      Outcome.text (StoredValue.render value.untilNul
        (context.setting params.meaning locale?)).value :=
  outcome_of_endsWith live (.rendered (HostParams.read?_eq_some_iff.mpr ⟨wellFormed, rfl⟩))

/-- A variant with entries has an active key, which is detected. -/
theorem outcome_activeKey {value : Text} {variant : Variant}
    (decoded : StoredValue.variant? value = some variant) (nonempty : variant.table ≠ []) :
    ∃ key, (variant.activeKey (context.setting params.meaning locale?)).value = some key ∧
      session.outcome thread id (.activeKey (some value) params locale? true) =
        Outcome.text key := by
  have read := HostParams.read?_eq_some_iff.mpr ⟨wellFormed, rfl⟩
  have isSome : (variant.activeKey (context.setting params.meaning locale?)).value ≠ none :=
    (Variant.activeKey_eq_none_iff _ _).not.mpr nonempty
  obtain ⟨key, found⟩ := Option.ne_none_iff_exists'.mp isSome
  exact ⟨key, found, outcome_of_endsWith live (.activeKeyFound read decoded found)⟩

/-- Two variants are compared by their active forms. -/
theorem outcome_activeFormEquals {value other : Text} {left right : Variant}
    (decoded : StoredValue.variant? value = some left)
    (otherDecoded : StoredValue.variant? other = some right) :
    session.outcome thread id (.activeFormEquals (some value) (some other) params locale? true) =
      .ok (.verdict
        (left.activeFormEquals right (context.setting params.meaning locale?)).value) :=
  outcome_of_endsWith live
    (.compared (HostParams.read?_eq_some_iff.mpr ⟨wellFormed, rfl⟩) decoded otherDecoded)

end Written

/-- How queries to a context fail, and what is handed out. -/
structure FailsWithCause (session : Session) (thread : ThreadId) (id : ContextId)
    (context : Context) : Prop where
  /-- Every query but a count returns the code of its outcome. -/
  returned (query : Query) (noCount : ∀ value?, query ≠ .formCount value?) :
    query.returned (session.outcome thread id query) =
      Outcome.code (session.outcome thread id query)
  /-- Of the parameters with one name, the last one counts. -/
  meaning (params : HostParams) (name : Text) :
    params.meaning.find? name =
      (params.passed.filterMap HostParam.entry?).reverse.lookup name
  /-- Misuse is noticed first. -/
  misused (query : Query) (misused : query.IsMisused) :
    Outcome.code (session.outcome thread id query) = Failure.invalidParams.code
  /-- Values that must be variants are decoded next. -/
  notVariant (query : Query) :
    Outcome.code (session.outcome thread id query) = Failure.notVariant.code ↔
      ¬ query.IsMisused ∧ ∃ value ∈ query.variantValues, StoredValue.variant? value = none
  /-- Rendering fails on misuse only. -/
  render_ok (value? : Option Text) (params : HostParams) (locale? : Option Text)
    (output : Bool) :
    Outcome.code (session.outcome thread id (.render value? params locale? output)) =
        Failure.success ↔
      ¬ (Query.render value? params locale? output).IsMisused
  /-- The text is that of the value, whatever its bytes are, under the parameters that were
  meant and the locale that was given or else the default one. -/
  rendered (value : Text) (params : HostParams) (locale? : Option Text)
    (wellFormed : params.IsWellFormed) :
    session.outcome thread id (.render (some value) params locale? true) =
      Outcome.text (StoredValue.render value.untilNul ⟨params.meaning,
        if (locale?.getD []).untilNul = [] then context.locale else (locale?.getD []).untilNul,
        context.rules⟩).value
  /-- That text is written to the place for it, as far as it goes without a NUL byte. -/
  render_written (value : Text) (params : HostParams) (locale? : Option Text)
    (wellFormed : params.IsWellFormed) :
    (Query.render (some value) params locale? true).output
        (session.outcome thread id (.render (some value) params locale? true)) =
      .text (StoredValue.render value.untilNul ⟨params.meaning,
        if (locale?.getD []).untilNul = [] then context.locale else (locale?.getD []).untilNul,
        context.rules⟩).value.untilNul
  /-- Detection fails on misuse, on a plain template, and on a variant without entries. -/
  activeKey (value? : Option Text) (params : HostParams) (locale? : Option Text)
    (output : Bool) :
    (Outcome.code (session.outcome thread id (.activeKey value? params locale? output)) =
          Failure.invalidParams.code ↔
        (Query.activeKey value? params locale? output).IsMisused) ∧
      (Outcome.code (session.outcome thread id (.activeKey value? params locale? output)) =
          Failure.noActiveKey.code ↔
        ¬ (Query.activeKey value? params locale? output).IsMisused ∧
          ∃ variant, value?.bind StoredValue.variant? = some variant ∧ variant.table = []) ∧
      (Outcome.code (session.outcome thread id (.activeKey value? params locale? output)) =
          Failure.success ↔
        ¬ (Query.activeKey value? params locale? output).IsMisused ∧
          ∃ variant, value?.bind StoredValue.variant? = some variant ∧ variant.table ≠ [])
  /-- A variant with entries has an active key, which is written to the place for it. -/
  activeKey_written (value : Text) (params : HostParams) (locale? : Option Text)
    (wellFormed : params.IsWellFormed) (variant : Variant)
    (decoded : StoredValue.variant? value = some variant) (nonempty : variant.table ≠ []) :
    ∃ key, (variant.activeKey (context.setting params.meaning locale?)).value = some key ∧
      (Query.activeKey (some value) params locale? true).output
          (session.outcome thread id (.activeKey (some value) params locale? true)) =
        .text key.untilNul
  /-- Comparison fails on misuse and on plain templates. -/
  activeFormEquals (value? other? : Option Text) (params : HostParams) (locale? : Option Text)
    (output : Bool) :
    (Outcome.code
          (session.outcome thread id (.activeFormEquals value? other? params locale? output)) =
          Failure.invalidParams.code ↔
        (Query.activeFormEquals value? other? params locale? output).IsMisused) ∧
      (Outcome.code
          (session.outcome thread id (.activeFormEquals value? other? params locale? output)) =
          Failure.success ↔
        ¬ (Query.activeFormEquals value? other? params locale? output).IsMisused ∧
          ∃ left right, value?.bind StoredValue.variant? = some left ∧
            other?.bind StoredValue.variant? = some right)
  /-- The verdict on two variants is written as one or zero. -/
  activeFormEquals_written (value other : Text) (params : HostParams) (locale? : Option Text)
    (wellFormed : params.IsWellFormed) (left right : Variant)
    (decoded : StoredValue.variant? value = some left)
    (otherDecoded : StoredValue.variant? other = some right) :
    (Query.activeFormEquals (some value) (some other) params locale? true).output
        (session.outcome thread id
          (.activeFormEquals (some value) (some other) params locale? true)) =
      .integer
        (if (left.activeFormEquals right (context.setting params.meaning locale?)).value then 1
        else 0)
  /-- A failure hands out no answer. -/
  withoutAnswer (query : Query) (failure : Failure)
    (failed : session.outcome thread id query = .error failure) :
    query.output (.error failure) = .untouched ∨ query.output (.error failure) = .cleared ∨
      query.output (.error failure) = .integer 0
  /-- Rendering that fails clears the place for the text. -/
  render_cleared (value? : Option Text) (params : HostParams) (locale? : Option Text)
    (output : Bool) (failure : Failure)
    (failed : session.outcome thread id (.render value? params locale? output) =
      .error failure) :
    (Query.render value? params locale? output).output (.error failure) =
      if output then .cleared else .untouched
  /-- Detection that fails clears the place for the key. -/
  activeKey_cleared (value? : Option Text) (params : HostParams) (locale? : Option Text)
    (output : Bool) (failure : Failure)
    (failed : session.outcome thread id (.activeKey value? params locale? output) =
      .error failure) :
    (Query.activeKey value? params locale? output).output (.error failure) =
      if output then .cleared else .untouched
  /-- A comparison that fails says that the forms differ, unless an argument is missing. -/
  activeFormEquals_cleared (value? other? : Option Text) (params : HostParams)
    (locale? : Option Text) (output : Bool) (failure : Failure)
    (failed : session.outcome thread id
      (.activeFormEquals value? other? params locale? output) = .error failure) :
    (Query.activeFormEquals value? other? params locale? output).output (.error failure) =
      if value?.isSome ∧ other?.isSome ∧ output then .integer 0 else .untouched
  /-- The thread reads the code afterwards. -/
  lastCode (query : Query) :
    (session.afterCall thread (.request (.ask (some id) query))).lastCode thread (some id) =
      Outcome.code (session.outcome thread id query)

/-- Queries to every context fail with a cause only. -/
theorem failsWithCause_of_live (live : session.context? (some id) = some context)
    (thread : ThreadId) : session.FailsWithCause thread id context where
  returned query noCount := (endsWith_outcome live thread query).returned_eq_code noCount
  meaning params name := HostParams.find?_meaning params name
  misused query misused := (endsWith_outcome live thread query).code_of_isMisused misused
  notVariant query := (endsWith_outcome live thread query).code_eq_notVariant_iff
  render_ok _ _ _ _ := (endsWith_outcome live thread _).render_ok_iff
  rendered value _ locale? wellFormed := outcome_render live thread wellFormed locale? value
  render_written value _ locale? wellFormed := by
    rw [outcome_render live thread wellFormed locale? value]
    rfl
  activeKey _ _ _ _ := (endsWith_outcome live thread _).activeKey_iff
  activeKey_written _ _ locale? wellFormed _ decoded nonempty := by
    obtain ⟨key, found, outcome⟩ :=
      outcome_activeKey live thread wellFormed locale? decoded nonempty
    refine ⟨key, found, ?_⟩
    rw [outcome]
    rfl
  activeFormEquals _ _ _ _ _ := (endsWith_outcome live thread _).activeFormEquals_iff
  activeFormEquals_written _ _ _ locale? wellFormed _ _ decoded otherDecoded := by
    rw [outcome_activeFormEquals live thread wellFormed locale? decoded otherDecoded]
    rfl
  withoutAnswer query failure _ := Query.output_of_error query failure
  render_cleared _ _ _ _ _ failed := (failed ▸ endsWith_outcome live thread _).output_render
  activeKey_cleared _ _ _ _ _ failed := (failed ▸ endsWith_outcome live thread _).output_activeKey
  activeFormEquals_cleared _ _ _ _ _ _ failed :=
    (failed ▸ endsWith_outcome live thread _).output_activeFormEquals
  lastCode query := lastCode_afterCall_ask query

/-- The session of a host that has created one context. -/
def withOneContext : Session := initial.after [(0, .request (.create true))]

/-- A parameter of an unknown kind is noticed after sound ones, and before the value is seen to
be no variant. Without parameters, a variant without entries has no active key. Sound parameters
are put into a plain template, and what comes of it is written. -/
theorem failsWithCause_withOneContext :
    let sound : HostParams := ⟨some [⟨some "n", 1, none, .one, 0⟩], 1⟩
    let query : Query := .render (some "\x7bn\x7d!") sound none true
    withOneContext.context? (some 1) = some (.initial .builtIn) ∧
      Outcome.code (withOneContext.outcome 0 1
        (.activeKey (some "a") ⟨some [⟨some "n", 1, none, .one, 0⟩, ⟨some "m", 3, none, .one, 0⟩],
          2⟩ none true)) = Failure.invalidParams.code ∧
      Outcome.code (withOneContext.outcome 0 1
        (.activeKey (some (Text.ofString "[\x7b\"match\":\x7b\x7d\x7d]")) ⟨none, 0⟩ none true)) =
          Failure.noActiveKey.code ∧
      sound.IsWellFormed ∧
      query.output (withOneContext.outcome 0 1 query) = .text "1!" := by
  intro sound query
  have live : withOneContext.context? (some 1) = some (.initial .builtIn) := rfl
  have fails := failsWithCause_of_live live 0
  have wellFormed : sound.IsWellFormed := ⟨by decide, by decide, by decide⟩
  refine ⟨live, (fails.activeKey ..).1.mpr ?_, (fails.activeKey ..).2.1.mpr ⟨?_, ?_⟩,
    wellFormed, ?_⟩
  · exact .inr (.inr fun wellFormed => absurd wellFormed.kinds (by decide))
  · rintro (absent | noOutput | malformed)
    · cases absent
    · cases noOutput
    · exact malformed ⟨by decide, fun _ => rfl, by decide⟩
  · exact ⟨⟨[], [], []⟩, by decide +kernel, rfl⟩
  · exact (fails.render_written _ sound none wellFormed).trans (by decide +kernel)

end Session

end MessageForms
