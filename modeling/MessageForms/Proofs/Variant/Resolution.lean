import MessageForms.Proofs.PatternKey
import MessageForms.Variant

/-!
# Which entry a variant shows

The entry is determined without evaluating selectors in advance: it is the first one whose
key fits, where a key fits if each clause that counts asks for any value or for the value
that its selector has by itself.
-/

namespace MessageForms

/-- The plural type that a derivation asks for; only the type `ordinal` asks for ranks. -/
def Derivation.requestedType (derivation : Derivation) : PluralType :=
  if derivation.options.find? typeOption = some (Text.ofString "ordinal") then .ordinal
  else .cardinal

namespace Variant

variable {variant : Variant} {setting : Setting}

/-- The value of a selector by itself. The first declaration that binds it may make it the
category of a number, or the text of another parameter; any other selector is the text of
the parameter with its name. -/
def meaning (variant : Variant) (setting : Setting) (selector : Text) : Option Text :=
  match variant.declarations.find? fun declaration => declaration.name? == some selector with
  | some (.derived derivation) =>
    if derivation.transform = Derivation.pluralTransform then
      match setting.params.find? derivation.source with
      | none => some PluralRules.other
      | some param =>
        if param.toNumber.isNaN then some PluralRules.other
        else
          let query := ⟨param.toNumber, setting.locale, derivation.requestedType⟩
          some (setting.rules.select query).value
    else (setting.params.find? derivation.source).map ParamValue.toText
  | _ => (setting.params.find? selector).map ParamValue.toText

/-- A key fits if each clause that counts asks for any value, or for the value of a selector
that may decide. -/
def Fits (variant : Variant) (setting : Setting) (key : Text) : Prop :=
  ∀ selector value, PatternKey.IsEffective key selector value →
    value = PatternKey.wildcard ∨
      (variant.meaning setting selector = some value ∧
        (variant.selectors = [] ∨ selector ∈ variant.selectors))

/-- The entry that a variant is to show. -/
inductive Selects (variant : Variant) (setting : Setting) : Option Resolution → Prop where
  /-- There is none in an empty table. -/
  | nothing (empty : variant.table = []) : Selects variant setting none
  /-- It is the first entry whose key fits. -/
  | first {index : Nat} {entry : Text × Text} (found : variant.table[index]? = some entry)
      (fits : variant.Fits setting entry.1)
      (least : ∀ earlier < index, ∀ other, variant.table[earlier]? = some other →
        ¬ variant.Fits setting other.1) :
      Selects variant setting (some ⟨index, true⟩)
  /-- It is the first entry of all if no key fits. -/
  | fallback (nonempty : variant.table ≠ [])
      (unfit : ∀ entry ∈ variant.table, ¬ variant.Fits setting entry.1) :
      Selects variant setting (some ⟨0, false⟩)

/-- A type that does not exist counts as none. -/
theorem value_pluralType (derivation : Derivation) :
    derivation.pluralType.value = derivation.requestedType := by
  have differ : Text.ofString "ordinal" ≠ Text.ofString "cardinal" := by decide +kernel
  unfold Derivation.pluralType PluralType.ofText? Derivation.requestedType
  cases derivation.options.find? Derivation.typeOption with
  | none => rfl
  | some requested =>
    by_cases cardinal : requested = "cardinal"
    · simp [cardinal, differ.symm]
    · by_cases ordinal : requested = "ordinal"
      · simp [ordinal, differ]
      · simp [cardinal, ordinal]

/-- The value that is computed for a selector is the one it has by itself. -/
theorem value_selectorValue (variant : Variant) (setting : Setting) (name : Text) :
    (variant.selectorValue setting name).value = variant.meaning setting name := by
  unfold selectorValue meaning Declaration.find?
  cases bound : variant.declarations.find? fun declaration => declaration.name? == some name with
  | none => rfl
  | some declaration =>
    cases declaration with
    | input parameter =>
      have named := List.find?_some bound
      obtain rfl : parameter = name := by simpa [Declaration.name?] using named
      rfl
    | derived derivation =>
      simp only [Derivation.evaluate, Derivation.number]
      split
      next plural =>
        rw [Traced.value_bind, value_pluralType]
        rcases Option.eq_none_or_eq_some (setting.params.find? derivation.source) with
          missing | ⟨param, given⟩
        · simp only [missing]
          rfl
        · simp only [given, Option.map_some, Option.getD_some]
          split <;> rfl
      next => rfl
    | unknown text => rfl

/-- Evaluation gives each name its value, and leaves the others as they were. -/
theorem find?_evaluateNames (names : List Text) (values : SelectorValues) (name : Text) :
    (variant.evaluateNames setting names values).value.find? name =
      if name ∈ names then some (variant.meaning setting name) else values.find? name := by
  induction names generalizing values with
  | nil => simp [evaluateNames]
  | cons first names inductionHypothesis =>
    rw [evaluateNames, Traced.value_bind, inductionHypothesis, Dictionary.find?_insert,
      value_selectorValue]
    by_cases same : name = first
    · simp [same]
    · simp [same]

/-- The selectors that decide have their values, and others have none. -/
theorem find?_evaluateSelectors (name : Text) :
    (variant.evaluateSelectors setting).value.find? name =
      if name ∈ variant.selectorNames then some (variant.meaning setting name) else none := by
  rw [evaluateSelectors, find?_evaluateNames, Dictionary.find?_empty]

/-- A key of the table holds for the computed values exactly if it fits. -/
theorem holds_iff_fits {entry : Text × Text} (member : entry ∈ variant.table) :
    (PatternKey.parse entry.1).holds (variant.evaluateSelectors setting).value ↔
      variant.Fits setting entry.1 := by
  rw [PatternKey.holds_iff, Fits]
  apply forall_congr'
  intro selector
  apply forall_congr'
  intro value
  apply imp_congr_right
  intro counts
  -- Being asked for by this key, the selector can only be left out by an explicit list.
  have decides : selector ∈ variant.selectorNames ↔
      variant.selectors = [] ∨ selector ∈ variant.selectors := by
    have inTable : selector ∈ variant.table.selectors :=
      MatchTable.mem_selectors_iff.mpr ⟨entry, member, value, counts⟩
    rw [selectorNames]
    split
    next empty => simp [empty, inTable]
    next nonempty => simp [nonempty]
  rw [find?_evaluateSelectors, ← decides]
  by_cases named : selector ∈ variant.selectorNames
  · simp [named]
  · simp [named]

/-- The first key that holds decides, if there are any entries. -/
theorem value_resolve_of_ne_nil (nonempty : variant.table ≠ []) :
    (variant.resolve setting).value =
      match variant.table.firstMatch? (variant.evaluateSelectors setting).value with
      | some index => some ⟨index, true⟩
      | none => some ⟨0, false⟩ := by
  unfold resolve
  split
  next empty => exact absurd empty nonempty
  next =>
    rw [Traced.value_bind]
    cases variant.table.firstMatch? (variant.evaluateSelectors setting).value <;> rfl

/-- The entry that is found is the one to show. -/
theorem selects_resolve (variant : Variant) (setting : Setting) :
    variant.Selects setting (variant.resolve setting).value := by
  by_cases empty : variant.table = []
  · have nothing : (variant.resolve setting).value = none := by
      unfold resolve
      split
      next => rfl
      next found => exact absurd (empty.symm.trans found) nofun
    rw [nothing]
    exact .nothing empty
  · rw [value_resolve_of_ne_nil empty]
    cases found : variant.table.firstMatch? (variant.evaluateSelectors setting).value with
    | none =>
      apply Selects.fallback empty
      intro entry member fits
      have unheld := List.findIdx?_eq_none_iff.mp found entry member
      rw [(holds_iff_fits member).mpr fits] at unheld
      cases unheld
    | some index =>
      obtain ⟨inTable, holds, least⟩ := List.findIdx?_eq_some_iff_getElem.mp found
      have fits := (holds_iff_fits (List.getElem_mem inTable)).mp holds
      apply Selects.first (List.getElem?_eq_getElem inTable) fits
      intro earlier before other isOther otherFits
      obtain ⟨inBounds, rfl⟩ := List.getElem?_eq_some_iff.mp isOther
      exact least earlier before ((holds_iff_fits (List.getElem_mem inBounds)).mpr otherFits)

/-- There is only one entry to show. -/
theorem Selects.unique {left right : Option Resolution}
    (selectsLeft : variant.Selects setting left) (selectsRight : variant.Selects setting right) :
    left = right := by
  cases selectsLeft with
  | nothing empty =>
    cases selectsRight with
    | nothing => rfl
    | first found => simp [empty] at found
    | fallback nonempty => exact absurd empty nonempty
  | first foundLeft fitsLeft leastLeft =>
    cases selectsRight with
    | nothing empty => simp [empty] at foundLeft
    | first foundRight fitsRight leastRight =>
      rename_i indexLeft _ indexRight _
      rcases Nat.lt_trichotomy indexLeft indexRight with before | rfl | behind
      · exact absurd fitsLeft (leastRight _ before _ foundLeft)
      · rfl
      · exact absurd fitsRight (leastLeft _ behind _ foundRight)
    | fallback _ unfit => exact absurd fitsLeft (unfit _ (List.mem_of_getElem? foundLeft))
  | fallback nonempty unfit =>
    cases selectsRight with
    | nothing empty => exact absurd empty nonempty
    | first found fits => exact absurd fits (unfit _ (List.mem_of_getElem? found))
    | fallback => rfl

/-- The entry that is found is the one to show, and no other. -/
theorem value_resolve_eq_iff (variant : Variant) (setting : Setting)
    (answer : Option Resolution) :
    (variant.resolve setting).value = answer ↔ variant.Selects setting answer := by
  constructor
  · rintro rfl
    exact selects_resolve variant setting
  · exact (selects_resolve variant setting).unique

end Variant

end MessageForms
