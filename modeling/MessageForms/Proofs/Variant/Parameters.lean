import MessageForms.Proofs.Template
import MessageForms.Proofs.Variant.Choice

/-!
# Which parameters matter

A variant reads one parameter for each selector: the source of the derivation if the selector is
derived, and otherwise the parameter with its name. The choice between the forms depends on these
alone. The text that is shown depends besides on the parameters that the chosen template has
placeholders for. Any other parameter may be added, changed or removed, also one with the name of a
derived selector, which its derivation hides.
-/

namespace MessageForms

/-- A traced result goes on in the same way if it does so with its value. -/
theorem Traced.bind_congr {α β : Type} {first : Traced α} {next other : α → Traced β}
    (same : next first.value = other first.value) : first >>= next = first >>= other := by
  change andThen first next = andThen first other
  rw [andThen, andThen, same]

namespace Derivation

/-- A derivation reads no parameter but its source. -/
theorem evaluate_congr {derivation : Derivation} {left right : Params}
    (same : left.find? derivation.source = right.find? derivation.source) (locale : Text)
    (rules : PluralRules) :
    derivation.evaluate ⟨left, locale, rules⟩ = derivation.evaluate ⟨right, locale, rules⟩ := by
  have sameNumber : derivation.number left = derivation.number right := by
    rw [number, number, same]
  rw [evaluate, evaluate]
  dsimp only
  rw [sameNumber, same]

end Derivation

namespace Template

variable {template name : Text}

/-- The placeholders that occur in a template are among its pieces. -/
theorem mem_pieces_of_occursAt {start : Nat} (occurs : OccursAt template start name) :
    .placeholder name ∈ pieces template := by
  obtain ⟨before, after, parts, -⟩ := ((isCut_pieces template).places start name).mp occurs
  rw [parts]
  exact List.mem_append_right _ List.mem_cons_self

/-- Substitution reads no parameter but those that occur in the template. -/
theorem substitute_eq_of_agree {left right : Params}
    (agree : ∀ start name, OccursAt template start name → left.find? name = right.find? name) :
    substitute template left = substitute template right :=
  calc
    substitute template left = (pieces template).flatMap (Piece.shown right) := by
      refine substitute_congr (fun _ => rfl) fun start name occurs => ?_
      rw [Piece.shown, Piece.shown, agree start name occurs]
    _ = substitute template right :=
      (substitute_congr (fun _ => rfl) fun _ _ _ => rfl).symm

end Template

namespace Variant

variable {variant : Variant} {left right : Params} {locale name : Text}

/-- The parameters that a variant reads, one for each selector: the source of the first declaration
that binds it, if this derives it, and otherwise the parameter with its name. -/
def reads (variant : Variant) : List Text :=
  variant.selectorNames.map fun selector =>
    match Declaration.find? variant.declarations selector with
    | some (.derived derivation) => derivation.source
    | _ => selector

/-- The template of the entry to show has a placeholder for a parameter. -/
def Shows (variant : Variant) (setting : Setting) (name : Text) : Prop :=
  ∃ key template start, (variant.activeEntry setting).value = some (key, template) ∧
    Template.OccursAt template start name

/-- A variant with a derived selector reads the source of the derivation. -/
theorem source_mem_reads {selector : Text} {derivation : Derivation}
    (named : selector ∈ variant.selectorNames)
    (derived : Declaration.find? variant.declarations selector = some (.derived derivation)) :
    derivation.source ∈ variant.reads :=
  List.mem_map.mpr ⟨selector, named, by rw [derived]⟩

/-- A variant with a selector that is not derived reads the parameter with its name. -/
theorem mem_reads_of_underived (named : name ∈ variant.selectorNames)
    (underived : ∀ derivation,
      Declaration.find? variant.declarations name ≠ some (.derived derivation)) :
    name ∈ variant.reads := by
  refine List.mem_map.mpr ⟨name, named, ?_⟩
  split
  next derivation derived => exact absurd derived (underived derivation)
  next => rfl

/-- A parameter with the name of a derived selector is read only as the source of some selector. -/
theorem mem_reads_iff_of_derived {derivation : Derivation}
    (derived : Declaration.find? variant.declarations name = some (.derived derivation)) :
    name ∈ variant.reads ↔ ∃ selector ∈ variant.selectorNames, ∃ other,
      Declaration.find? variant.declarations selector = some (.derived other) ∧
        other.source = name := by
  constructor
  · intro member
    obtain ⟨selector, named, read⟩ := List.mem_map.mp member
    split at read
    next other isDerived => exact ⟨selector, named, other, isDerived, read⟩
    next underived =>
      subst read
      exact absurd derived (underived derivation)
  · rintro ⟨selector, named, other, isDerived, rfl⟩
    exact source_mem_reads named isDerived

/-- Parameters that agree on what is read give each selector the same value. -/
theorem selectorValue_eq_of_agree
    (agree : ∀ name ∈ variant.reads, left.find? name = right.find? name)
    (named : name ∈ variant.selectorNames) (rules : PluralRules) :
    variant.selectorValue ⟨left, locale, rules⟩ name =
      variant.selectorValue ⟨right, locale, rules⟩ name := by
  by_cases derived : ∃ derivation,
      Declaration.find? variant.declarations name = some (.derived derivation)
  · obtain ⟨derivation, isDerivation⟩ := derived
    rw [selectorValue_of_derived isDerivation, selectorValue_of_derived isDerivation]
    exact Derivation.evaluate_congr (agree _ (source_mem_reads named isDerivation)) locale rules
  · have underived := not_exists.mp derived
    rw [selectorValue_of_underived underived, selectorValue_of_underived underived]
    dsimp only
    rw [agree name (mem_reads_of_underived named underived)]

/-- Parameters that agree on what is read lead to the same choice. -/
theorem ChoosesLike.of_agree (agree : ∀ name ∈ variant.reads, left.find? name = right.find? name)
    (locale : Text) : variant.ChoosesLike left variant right locale :=
  .of_selectorValue rfl rfl fun rules _ named => selectorValue_eq_of_agree agree named rules

/-- Where the same choice is made, parameters that agree on what is shown give the same text. -/
theorem ChoosesLike.render_eq (chooses : variant.ChoosesLike left variant right locale)
    {rules : PluralRules}
    (agree : ∀ name, variant.Shows ⟨left, locale, rules⟩ name →
      left.find? name = right.find? name) :
    variant.render ⟨left, locale, rules⟩ = variant.render ⟨right, locale, rules⟩ := by
  have active : variant.activeEntry ⟨left, locale, rules⟩ =
      variant.activeEntry ⟨right, locale, rules⟩ := by
    rw [activeEntry, activeEntry, chooses.resolve]
  rw [render, render, ← active]
  refine Traced.bind_congr ?_
  cases shown : (variant.activeEntry ⟨left, locale, rules⟩).value with
  | none => rfl
  | some entry =>
    have sameText : Template.substitute entry.2 left = Template.substitute entry.2 right :=
      Template.substitute_eq_of_agree fun start name occurs =>
        agree name ⟨entry.1, entry.2, start, shown, occurs⟩
    simp only [Option.map_some, sameText]

/-- What a variant chooses depends on the parameters that it reads, and what it shows depends
besides on those that it shows. So one other parameter may be added, changed or removed. A parameter
with the name of a derived selector is such a parameter unless it is the source of a selector. -/
theorem named_parameters_matter (variant : Variant) (left right : Params) (locale : Text) :
    ((∀ name ∈ variant.reads, left.find? name = right.find? name) →
      variant.ChoosesLike left variant right locale ∧
        ∀ rules, (∀ name, variant.Shows ⟨left, locale, rules⟩ name →
          left.find? name = right.find? name) →
            variant.render ⟨left, locale, rules⟩ = variant.render ⟨right, locale, rules⟩) ∧
    (∀ name ∉ variant.reads, (∀ other ≠ name, left.find? other = right.find? other) →
      variant.ChoosesLike left variant right locale ∧
        ∀ rules, ¬ variant.Shows ⟨left, locale, rules⟩ name →
          variant.render ⟨left, locale, rules⟩ = variant.render ⟨right, locale, rules⟩) ∧
    ∀ name derivation,
      Declaration.find? variant.declarations name = some (.derived derivation) →
        (name ∈ variant.reads ↔ ∃ selector ∈ variant.selectorNames, ∃ other,
          Declaration.find? variant.declarations selector = some (.derived other) ∧
            other.source = name) := by
  refine ⟨fun agree => ?_, fun name unread agree => ?_, fun name derivation derived => ?_⟩
  · have chooses := ChoosesLike.of_agree agree locale
    exact ⟨chooses, fun rules shown => chooses.render_eq shown⟩
  · have chooses : variant.ChoosesLike left variant right locale :=
      .of_agree (fun other read => agree other (ne_of_mem_of_not_mem read unread)) locale
    refine ⟨chooses, fun rules unshown => chooses.render_eq fun other shown => agree other ?_⟩
    rintro rfl
    exact unshown shown
  · exact mem_reads_iff_of_derived derived

/-- A variant that selects on the plural of an amount and shows a total. -/
def ofTotal : Variant where
  declarations := [.derived ⟨"k", "n", "plural", .empty⟩]
  selectors := []
  table := [("k=one", "one of \x7btotal\x7d"), ("k=other", "all \x7btotal\x7d")]

/-- The parameters of one of three. -/
def oneOfThree : Params := .ofList [("n", .number .one), ("total", .text "3")]

/-- The parameters of one of three, for a page. -/
def oneOfThreeOnPage : Params :=
  .ofList [("n", .number .one), ("page", .flag true), ("total", .text "3")]

/-- A parameter with the name of the plural is not read, so it changes nothing, and neither does one
that is not mentioned at all. Where the total is not the same, the choice is. -/
theorem named_parameters_matter_ofTotal :
    Text.ofString "k" ∉ ofTotal.reads ∧
      (ofTotal.render ⟨oneOfThree.insert "k" (.text "other"), "en", .builtIn⟩).value =
        Text.ofString "one of 3" ∧
      (ofTotal.render ⟨oneOfThreeOnPage, "en", .builtIn⟩).value = Text.ofString "one of 3" ∧
      (ofTotal.activeKey ⟨.ofList [("n", .number .one)], "en", .builtIn⟩).value =
        some (Text.ofString "k=one") := by
  have names : ofTotal.selectorNames = [Text.ofString "k"] := by decide +kernel
  have derived : Declaration.find? ofTotal.declarations "k" =
      some (.derived ⟨"k", "n", "plural", .empty⟩) := by decide +kernel
  have reads : ofTotal.reads = [Text.ofString "n"] := by decide +kernel
  have shown : ∀ name, ofTotal.Shows ⟨oneOfThree, "en", .builtIn⟩ name →
      name = Text.ofString "total" := by
    rintro name ⟨key, template, start, active, occurs⟩
    have entry : (ofTotal.activeEntry ⟨oneOfThree, "en", .builtIn⟩).value =
        some (Text.ofString "k=one", Text.ofString "one of \x7btotal\x7d") := by decide +kernel
    have pieces : Template.pieces "one of \x7btotal\x7d" =
        (Text.ofString "one of ").map .literal ++ [.placeholder "total"] := by decide +kernel
    cases entry.symm.trans active
    have member := Template.mem_pieces_of_occursAt occurs
    simpa [pieces] using member
  have hidden := (named_parameters_matter ofTotal oneOfThree oneOfThree "en").2.2 _ _ derived
  have unread : Text.ofString "k" ∉ ofTotal.reads := by
    rw [hidden, names]
    rintro ⟨selector, named, other, isDerived, source⟩
    rw [List.mem_singleton.mp named, derived] at isDerived
    cases isDerived
    revert source
    decide +kernel
  have added := (named_parameters_matter ofTotal oneOfThree
    (oneOfThree.insert "k" (.text "other")) "en").2.1 _ unread fun other different => by
      rw [Dictionary.find?_insert, if_neg different]
  have onPage := (named_parameters_matter ofTotal oneOfThree oneOfThreeOnPage "en").1 (by
    rw [reads, List.forall_mem_singleton]
    decide +kernel)
  have untold := (named_parameters_matter ofTotal oneOfThree
    (.ofList [("n", .number .one)]) "en").1 (by
      rw [reads, List.forall_mem_singleton]
      decide +kernel)
  have text : (ofTotal.render ⟨oneOfThree, "en", .builtIn⟩).value = Text.ofString "one of 3" := by
    decide +kernel
  refine ⟨unread, ?_, ?_, ?_⟩
  · have same := added.2 .builtIn fun isShown => by
      have isTotal := shown _ isShown
      revert isTotal
      decide +kernel
    exact (congrArg Traced.value same).symm.trans text
  · have same := onPage.2 .builtIn fun name isShown => by
      rw [shown name isShown]
      decide +kernel
    exact (congrArg Traced.value same).symm.trans text
  · exact (congrArg Traced.value (untold.1.activeKey .builtIn)).symm.trans (by decide +kernel)

end Variant

end MessageForms
