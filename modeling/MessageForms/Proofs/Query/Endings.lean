import MessageForms.Query

/-!
# How queries end

The ways in which a query can end are listed once: its arguments are checked first, then the
value is decoded, and then the question is asked. What a host may rely on follows from the
list: no context answers that it is missing, only counting is answered by a count, and a
failure leaves the defaults as they are.
-/

namespace MessageForms

/-- The variant that a terminated value holds, if it holds one. -/
def StoredValue.variant? (value : Text) : Option Variant :=
  (Variant.ofText? value.untilNul).value

/-- The code of an outcome. -/
def Outcome.code : Outcome → Int
  | .ok _ => Failure.success
  | .error failure => failure.code

namespace Query

/-- A query that asks a question; the others change a default. -/
def IsEvaluation : Query → Prop
  | setLocale _ | setCategorizer _ => False
  | _ => True

/-- The ways in which a query ends on a context. -/
inductive EndsWith (context : Context) : Query → Outcome → Prop where
  | emptyLocale {locale? : Option Text} (empty : (locale?.getD []).untilNul = []) :
    EndsWith context (.setLocale locale?) (.error .emptyLocale)
  | localeSet {locale? : Option Text} (given : (locale?.getD []).untilNul ≠ []) :
    EndsWith context (.setLocale locale?) (.ok .done)
  | categorizerSet {categorizer? : Option Categorizer} :
    EndsWith context (.setCategorizer categorizer?) (.ok .done)
  | renderWithoutOutput {value? : Option Text} {params : HostParams} {locale? : Option Text} :
    EndsWith context (.render value? params locale? false) (.error .missingTextOutput)
  | renderInvalid {value? : Option Text} {params : HostParams} {locale? : Option Text}
    (invalid : value? = none ∨ params.read? = none) :
    EndsWith context (.render value? params locale? true) (.error .invalidValueOrParams)
  | rendered {value : Text} {params : HostParams} {given : Params} {locale? : Option Text}
    (read : params.read? = some given) :
    EndsWith context (.render (some value) params locale? true)
      (Outcome.text (StoredValue.render value.untilNul (context.setting given locale?)).value)
  | activeKeyWithoutOutput {value? : Option Text} {params : HostParams} {locale? : Option Text} :
    EndsWith context (.activeKey value? params locale? false) (.error .missingKeyOutput)
  | activeKeyInvalid {value? : Option Text} {params : HostParams} {locale? : Option Text}
    (invalid : value? = none ∨ params.read? = none) :
    EndsWith context (.activeKey value? params locale? true) (.error .invalidValueOrParams)
  | activeKeyOfTemplate {value : Text} {params : HostParams} {given : Params}
    {locale? : Option Text} (read : params.read? = some given)
    (plain : StoredValue.variant? value = none) :
    EndsWith context (.activeKey (some value) params locale? true) (.error .notVariant)
  | activeKeyMissing {value : Text} {params : HostParams} {given : Params}
    {locale? : Option Text} {variant : Variant} (read : params.read? = some given)
    (decoded : StoredValue.variant? value = some variant)
    (missing : (variant.activeKey (context.setting given locale?)).value = none) :
    EndsWith context (.activeKey (some value) params locale? true) (.error .noActiveKey)
  | activeKeyFound {value : Text} {params : HostParams} {given : Params} {locale? : Option Text}
    {variant : Variant} {key : Text} (read : params.read? = some given)
    (decoded : StoredValue.variant? value = some variant)
    (found : (variant.activeKey (context.setting given locale?)).value = some key) :
    EndsWith context (.activeKey (some value) params locale? true) (Outcome.text key)
  | countWithoutValue : EndsWith context (.formCount none) (.error .missingValue)
  | countOfTemplate {value : Text} (plain : StoredValue.variant? value = none) :
    EndsWith context (.formCount (some value)) (.error .notVariant)
  | counted {value : Text} {variant : Variant}
    (decoded : StoredValue.variant? value = some variant) :
    EndsWith context (.formCount (some value)) (.ok (.count variant.table.length))
  | keyWithoutArgument {value? : Option Text} {index : Int} {output : Bool}
    (absent : value? = none ∨ output = false) :
    EndsWith context (.formKey value? index output) (.error .missingValueOrKeyOutput)
  | keyOfTemplate {value : Text} {index : Int} (plain : StoredValue.variant? value = none) :
    EndsWith context (.formKey (some value) index true) (.error .notVariant)
  | keyOutOfRange {value : Text} {index : Int} {variant : Variant}
    (decoded : StoredValue.variant? value = some variant)
    (outside : index < 0 ∨ variant.table.length ≤ index.toNat) :
    EndsWith context (.formKey (some value) index true) (.error .indexOutOfRange)
  | keyListed {value : Text} {index : Int} {variant : Variant} {entry : Text × Text}
    (decoded : StoredValue.variant? value = some variant) (inside : 0 ≤ index)
    (found : variant.table[index.toNat]? = some entry) :
    EndsWith context (.formKey (some value) index true) (Outcome.text entry.1)
  | templateWithoutArgument {value? key? : Option Text} {output : Bool}
    (absent : value? = none ∨ key? = none ∨ output = false) :
    EndsWith context (.formTemplate value? key? output) (.error .missingTemplateArgument)
  | templateOfTemplate {value key : Text} (plain : StoredValue.variant? value = none) :
    EndsWith context (.formTemplate (some value) (some key) true) (.error .notVariant)
  | templateMissing {value key : Text} {variant : Variant}
    (decoded : StoredValue.variant? value = some variant)
    (missing : variant.template? key.untilNul = none) :
    EndsWith context (.formTemplate (some value) (some key) true)
      (.error (.keyNotFound key.untilNul))
  | templateFound {value key template : Text} {variant : Variant}
    (decoded : StoredValue.variant? value = some variant)
    (found : variant.template? key.untilNul = some template) :
    EndsWith context (.formTemplate (some value) (some key) true) (Outcome.text template)
  | comparisonWithoutArgument {value? other? : Option Text} {params : HostParams}
    {locale? : Option Text} {output : Bool}
    (absent : value? = none ∨ other? = none ∨ output = false) :
    EndsWith context (.activeFormEquals value? other? params locale? output)
      (.error .missingComparisonArgument)
  | comparisonInvalid {value other : Text} {params : HostParams} {locale? : Option Text}
    (invalid : params.read? = none) :
    EndsWith context (.activeFormEquals (some value) (some other) params locale? true)
      (.error .invalidParams)
  | comparisonOfTemplate {value other : Text} {params : HostParams} {given : Params}
    {locale? : Option Text} (read : params.read? = some given)
    (plain : StoredValue.variant? value = none ∨ StoredValue.variant? other = none) :
    EndsWith context (.activeFormEquals (some value) (some other) params locale? true)
      (.error .notVariant)
  | compared {value other : Text} {params : HostParams} {given : Params} {locale? : Option Text}
    {left right : Variant} (read : params.read? = some given)
    (decoded : StoredValue.variant? value = some left)
    (otherDecoded : StoredValue.variant? other = some right) :
    EndsWith context (.activeFormEquals (some value) (some other) params locale? true)
      (.ok (.verdict (left.activeFormEquals right (context.setting given locale?)).value))
  | categoryWithoutOutput {number : Double} {locale? : Option Text} {type : PluralType} :
    EndsWith context (.category number locale? type false) (.error .missingCategoryOutput)
  | categorized {number : Double} {locale? : Option Text} {type : PluralType} :
    EndsWith context (.category number locale? type true)
      (Outcome.text (context.rules.select ⟨number, context.resolveLocale locale?, type⟩).value)

/-- A value that must be a variant is decoded first. -/
theorem value_requireVariant (value : Text) (next : Variant → Traced Outcome) :
    (requireVariant value next).value =
      (StoredValue.variant? value).elim (.error .notVariant) fun variant =>
        (next variant).value := by
  simp only [requireVariant, StoredValue.variant?, Traced.value_bind]
  cases (Variant.ofText? value.untilNul).value <;> rfl

/-- Every query ends in one of the ways listed. -/
theorem endsWith_answer (query : Query) (context : Context) :
    query.EndsWith context (query.answer context).value := by
  cases query with
  | setLocale locale? =>
    by_cases empty : (locale?.getD []).untilNul = []
    · rw [answer, if_pos empty]
      exact .emptyLocale empty
    · rw [answer, if_neg empty]
      exact .localeSet empty
  | setCategorizer categorizer? => exact .categorizerSet
  | render value? params locale? output =>
    match output, value?, read : params.read? with
    | false, _, _ => exact .renderWithoutOutput
    | true, none, _ => exact .renderInvalid (.inl rfl)
    | true, some value, none =>
      simp only [answer, read]
      exact .renderInvalid (.inr read)
    | true, some value, some given =>
      simp only [answer, read]
      exact .rendered read
  | activeKey value? params locale? output =>
    match output, value?, read : params.read? with
    | false, _, _ => exact .activeKeyWithoutOutput
    | true, none, _ => exact .activeKeyInvalid (.inl rfl)
    | true, some value, none =>
      simp only [answer, read]
      exact .activeKeyInvalid (.inr read)
    | true, some value, some given =>
      simp only [answer, read, if_true, value_requireVariant]
      cases decoded : StoredValue.variant? value with
      | none => exact .activeKeyOfTemplate read decoded
      | some variant =>
        simp only [Option.elim_some, Traced.value_bind, Traced.value_pure]
        cases found : (variant.activeKey (context.setting given locale?)).value with
        | none => exact .activeKeyMissing read decoded found
        | some key => exact .activeKeyFound read decoded found
  | formCount value? =>
    match value? with
    | none => exact .countWithoutValue
    | some value =>
      simp only [answer, value_requireVariant]
      cases decoded : StoredValue.variant? value with
      | none => exact .countOfTemplate decoded
      | some variant => exact .counted decoded
  | formKey value? index output =>
    match value?, output with
    | none, _ => exact .keyWithoutArgument (.inl rfl)
    | some value, false => exact .keyWithoutArgument (.inr rfl)
    | some value, true =>
      simp only [answer, value_requireVariant]
      cases decoded : StoredValue.variant? value with
      | none => exact .keyOfTemplate decoded
      | some variant =>
        simp only [Option.elim_some]
        by_cases inside : 0 ≤ index
        · rw [if_pos inside, Variant.forms, List.getElem?_map]
          cases found : variant.table[index.toNat]? with
          | none => exact .keyOutOfRange decoded (.inr (List.getElem?_eq_none_iff.mp found))
          | some entry => exact .keyListed decoded inside found
        · rw [if_neg inside]
          exact .keyOutOfRange decoded (.inl (Int.not_le.mp inside))
  | formTemplate value? key? output =>
    match value?, key?, output with
    | none, _, _ => exact .templateWithoutArgument (.inl rfl)
    | some value, none, _ => exact .templateWithoutArgument (.inr (.inl rfl))
    | some value, some key, false => exact .templateWithoutArgument (.inr (.inr rfl))
    | some value, some key, true =>
      simp only [answer, value_requireVariant]
      cases decoded : StoredValue.variant? value with
      | none => exact .templateOfTemplate decoded
      | some variant =>
        simp only [Option.elim_some, Traced.value_pure]
        cases found : variant.template? key.untilNul with
        | none => exact .templateMissing decoded found
        | some template => exact .templateFound decoded found
  | activeFormEquals value? other? params locale? output =>
    match value?, other?, output with
    | none, _, _ => exact .comparisonWithoutArgument (.inl rfl)
    | some value, none, _ => exact .comparisonWithoutArgument (.inr (.inl rfl))
    | some value, some other, false => exact .comparisonWithoutArgument (.inr (.inr rfl))
    | some value, some other, true =>
      cases read : params.read? with
      | none =>
        simp only [answer, read]
        exact .comparisonInvalid read
      | some given =>
        simp only [answer, read, value_requireVariant]
        cases decoded : StoredValue.variant? value with
        | none => exact .comparisonOfTemplate read (.inl decoded)
        | some variant =>
          cases otherDecoded : StoredValue.variant? other with
          | none => exact .comparisonOfTemplate read (.inr otherDecoded)
          | some otherVariant => exact .compared read decoded otherDecoded
  | category number locale? type output =>
    cases output with
    | false => exact .categoryWithoutOutput
    | true => exact .categorized

variable {context : Context}

/-- A query that ends in one of the ways listed is answered so. -/
theorem EndsWith.value_answer {query : Query} {outcome : Outcome}
    (ends : query.EndsWith context outcome) : (query.answer context).value = outcome := by
  cases ends with
  | emptyLocale empty => simp [answer, empty]
  | localeSet given => simp [answer, given]
  | renderInvalid invalid | activeKeyInvalid invalid =>
    rcases invalid with rfl | unread
    · rfl
    · simp [answer, unread]
  | rendered read => simp [answer, read]
  | activeKeyOfTemplate read plain => simp [answer, read, value_requireVariant, plain]
  | activeKeyMissing read decoded missing =>
    simp [answer, read, value_requireVariant, decoded, missing]
  | activeKeyFound read decoded found =>
    simp [answer, read, value_requireVariant, decoded, found]
  | countOfTemplate plain => simp [answer, value_requireVariant, plain]
  | counted decoded => simp [answer, value_requireVariant, decoded]
  | keyWithoutArgument absent =>
    rcases absent with rfl | rfl
    · rfl
    · simp [answer]
  | keyOfTemplate plain => simp [answer, value_requireVariant, plain]
  | keyOutOfRange decoded outside =>
    rcases outside with negative | beyond
    · simp [answer, value_requireVariant, decoded, Int.not_le.mpr negative]
    · simp [answer, value_requireVariant, decoded, Variant.forms, List.getElem?_eq_none beyond]
  | keyListed decoded inside found =>
    simp [answer, value_requireVariant, decoded, inside, Variant.forms, found]
  | templateWithoutArgument absent =>
    rcases absent with rfl | rfl | rfl
    · rfl
    · simp [answer]
    · simp [answer]
  | templateOfTemplate plain => simp [answer, value_requireVariant, plain]
  | templateMissing decoded missing => simp [answer, value_requireVariant, decoded, missing]
  | templateFound decoded found => simp [answer, value_requireVariant, decoded, found]
  | comparisonWithoutArgument absent =>
    rcases absent with rfl | rfl | rfl
    · rfl
    · simp [answer]
    · simp [answer]
  | comparisonInvalid invalid => simp [answer, invalid]
  | comparisonOfTemplate read plain =>
    simp only [answer, read, value_requireVariant]
    rcases plain with plain | plain
    · rw [plain]
      rfl
    · rw [plain]
      cases StoredValue.variant? _ <;> rfl
  | compared read decoded otherDecoded =>
    simp [answer, read, value_requireVariant, decoded, otherDecoded]
  | _ => rfl

/-- A context never answers that it is missing. -/
theorem EndsWith.ne_missingContext {query : Query} {outcome : Outcome}
    (ends : query.EndsWith context outcome) : outcome ≠ .error .missingContext := by
  cases ends <;> nofun

/-- A failure leaves the defaults as they are. -/
theorem EndsWith.configure_of_error {query : Query} {failure : Failure}
    (ends : query.EndsWith context (.error failure)) : query.configure context = context := by
  cases ends with
  | emptyLocale empty => exact if_pos empty
  | _ => rfl

/-- A query that asks a question leaves the defaults as they are. -/
theorem configure_of_isEvaluation {query : Query} (evaluation : query.IsEvaluation) :
    query.configure context = context := by
  cases query with
  | setLocale => exact evaluation.elim
  | setCategorizer => exact evaluation.elim
  | _ => rfl

/-- What a query returns is the code of its outcome, unless it counts forms. -/
theorem EndsWith.returned_eq_code {query : Query} {outcome : Outcome}
    (ends : query.EndsWith context outcome) (noCount : ∀ value?, query ≠ .formCount value?) :
    query.returned outcome = Outcome.code outcome := by
  cases ends with
  | countWithoutValue => exact absurd rfl (noCount _)
  | countOfTemplate => exact absurd rfl (noCount _)
  | counted => exact absurd rfl (noCount _)
  | _ => rfl

/-- Counting forms returns a count exactly if it succeeds, and minus one if it fails. -/
theorem EndsWith.returned_formCount {value? : Option Text} {outcome : Outcome}
    (ends : (Query.formCount value?).EndsWith context outcome) :
    (0 ≤ (Query.formCount value?).returned outcome ↔ Outcome.code outcome = Failure.success) := by
  cases ends with
  | countWithoutValue => simp [returned, Outcome.code, Failure.code, Failure.success]
  | countOfTemplate => simp [returned, Outcome.code, Failure.code, Failure.success]
  | counted => exact iff_of_true (Int.natCast_nonneg _) rfl

end Query

end MessageForms
