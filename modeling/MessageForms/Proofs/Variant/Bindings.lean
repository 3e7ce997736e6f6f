import Mathlib.Logic.Relation
import MessageForms.Proofs.Variant.Choice

/-!
# Which declarations matter

Of the declarations that bind a name only the first one counts, and it counts only if it derives
the name. So a list of declarations may be tidied step by step: texts in neither form, repeated
declarations and plain inputs are left out, and declarations of different names change places. No
step changes how any name is derived, and a variant acts in all respects as the names of its
selectors are derived.
-/

namespace MessageForms

namespace Declaration

variable {before after left right : List Declaration} {name : Text}

/-- Two lists derive a name alike: both by the same derivation, or neither. -/
def DeriveAlike (left right : List Declaration) (name : Text) : Prop :=
  ∀ derivation, find? left name = some (.derived derivation) ↔
    find? right name = some (.derived derivation)

/-- A step that tidies a list of declarations. -/
inductive Tidies : List Declaration → List Declaration → Prop where
  /-- A text in neither form is left out. -/
  | unknown (before after : List Declaration) (text : Text) :
    Tidies (before ++ unknown text :: after) (before ++ after)
  /-- A declaration of a name is left out that an earlier one binds. -/
  | repeated {before : List Declaration} (after : List Declaration) {first again : Declaration}
    {name : Text} (earlier : first ∈ before) (bound : first.name? = some name)
    (boundAgain : again.name? = some name) : Tidies (before ++ again :: after) (before ++ after)
  /-- An input is left out that no later declaration binds. -/
  | input (before : List Declaration) {after : List Declaration} {name : Text}
    (last : ∀ later ∈ after, later.name? ≠ some name) :
    Tidies (before ++ input name :: after) (before ++ after)
  /-- Neighbours with different names change places. -/
  | swapped (before after : List Declaration) {first second : Declaration}
    (different : first.name? ≠ second.name?) :
    Tidies (before ++ first :: second :: after) (before ++ second :: first :: after)

/-- What is done to a list may be done behind another declaration. -/
theorem Tidies.cons (first : Declaration) (step : Tidies left right) :
    Tidies (first :: left) (first :: right) := by
  cases step with
  | unknown before after text => exact .unknown (first :: before) after text
  | repeated after earlier bound boundAgain =>
    exact .repeated after (List.mem_cons_of_mem first earlier) bound boundAgain
  | input before last => exact .input (first :: before) last
  | swapped before after different => exact .swapped (first :: before) after different

/-- What follows counts only for names that are not bound before. -/
theorem deriveAlike_append
    (alike : find? before name = none → DeriveAlike left right name) :
    DeriveAlike (before ++ left) (before ++ right) name := by
  intro derivation
  simp only [find?, List.find?_append] at alike ⊢
  cases bound : before.find? fun declaration => declaration.name? == some name with
  | none => exact alike bound derivation
  | some declaration => rfl

/-- The first declaration of a list is found if it binds the name. -/
theorem find?_cons_of_name? {declaration : Declaration} (bound : declaration.name? = some name) :
    find? (declaration :: after) name = some declaration :=
  List.find?_cons_of_pos (beq_iff_eq.mpr bound)

/-- The first declaration of a list is passed over if it does not bind the name. -/
theorem find?_cons_of_name?_ne {declaration : Declaration}
    (unbound : declaration.name? ≠ some name) :
    find? (declaration :: after) name = find? after name :=
  List.find?_cons_of_neg (by simpa using unbound)

/-- A step of tidying changes no derivation. -/
theorem Tidies.deriveAlike (step : Tidies left right) (name : Text) :
    DeriveAlike left right name := by
  cases step with
  | unknown before after text =>
    refine deriveAlike_append fun _ derivation => ?_
    rw [find?_cons_of_name?_ne (by nofun)]
  | @repeated before after first again other earlier bound boundAgain =>
    refine deriveAlike_append fun unbound derivation => ?_
    have different : other ≠ name := by
      rintro rfl
      exact List.find?_eq_none.mp unbound first earlier (beq_iff_eq.mpr bound)
    rw [find?_cons_of_name?_ne (by simpa [boundAgain] using different)]
  | @input before after other last =>
    refine deriveAlike_append fun _ derivation => ?_
    by_cases same : other = name
    · subst same
      have gone : find? after other = none := List.find?_eq_none.mpr fun later member => by
        simpa using last later member
      rw [find?_cons_of_name? rfl, gone]
      exact iff_of_false nofun nofun
    · rw [find?_cons_of_name?_ne (by simpa [name?] using same)]
  | @swapped before after first second different =>
    refine deriveAlike_append fun _ derivation => ?_
    by_cases bindsFirst : first.name? = some name
    · have otherName : second.name? ≠ some name := fun same =>
        different (bindsFirst.trans same.symm)
      rw [find?_cons_of_name? bindsFirst, find?_cons_of_name?_ne otherName,
        find?_cons_of_name? bindsFirst]
    · by_cases bindsSecond : second.name? = some name
      · rw [find?_cons_of_name?_ne bindsFirst, find?_cons_of_name? bindsSecond,
          find?_cons_of_name? bindsSecond]
      · rw [find?_cons_of_name?_ne bindsFirst, find?_cons_of_name?_ne bindsSecond,
          find?_cons_of_name?_ne bindsSecond, find?_cons_of_name?_ne bindsFirst]

/-- Tidying, undone in part or not, changes no derivation. -/
theorem deriveAlike_of_eqvGen (tidied : Relation.EqvGen Tidies left right) (name : Text) :
    DeriveAlike left right name := by
  induction tidied with
  | rel left right step => exact step.deriveAlike name
  | refl declarations => exact fun _ => Iff.rfl
  | symm left right _ inductionHypothesis =>
    exact fun derivation => (inductionHypothesis derivation).symm
  | trans left middle right _ _ first second =>
    exact fun derivation => (first derivation).trans (second derivation)

/-- Declarations are left out one by one if each of them may be, when those before it that are to go
are gone. -/
theorem reaches_filter {keep : Declaration → Bool} {declarations : List Declaration}
    (before : List Declaration)
    (leave : ∀ earlier declaration later, declarations = earlier ++ declaration :: later →
      keep declaration = false →
        Tidies (before ++ earlier.filter keep ++ declaration :: later)
          (before ++ earlier.filter keep ++ later)) :
    Relation.ReflTransGen Tidies (before ++ declarations) (before ++ declarations.filter keep) := by
  -- One that stays joins those before the rest, and one that goes is left out at once.
  induction declarations generalizing before with
  | nil => exact .refl
  | cons first rest inductionHypothesis =>
    have later := fun earlier declaration later (parts : rest = earlier ++ declaration :: later) =>
      leave (first :: earlier) declaration later (congrArg (first :: ·) parts)
    cases kept : keep first with
    | true =>
      rw [List.filter_cons_of_pos kept, List.append_cons before first rest,
        List.append_cons before first (rest.filter keep)]
      refine inductionHypothesis (before ++ [first]) fun earlier declaration after parts left => ?_
      simpa [kept] using later earlier declaration after parts left
    | false =>
      have gone : ¬ keep first = true := by simp [kept]
      rw [List.filter_cons_of_neg gone]
      have step := leave [] first rest rfl kept
      rw [List.filter_nil, List.append_nil] at step
      refine .head step (inductionHypothesis before fun earlier declaration after parts left => ?_)
      simpa [kept] using later earlier declaration after parts left

/-- The texts in neither form are left out. -/
theorem reaches_bindings (declarations : List Declaration) :
    Relation.ReflTransGen Tidies declarations
      (declarations.filter fun declaration => declaration.name?.isSome) := by
  refine reaches_filter [] fun earlier declaration later _ unbound => ?_
  cases declaration with
  | input name => cases unbound
  | derived derivation => cases unbound
  | unknown text => exact .unknown _ later text

/-- A list of declarations without those whose name an earlier one binds. -/
def firstBindings : List Declaration → List Declaration
  | [] => []
  | first :: rest =>
    first :: (firstBindings rest).filter fun later =>
      later.name?.isNone || later.name? != first.name?

/-- The declarations of a name that an earlier one binds are left out. -/
theorem reaches_firstBindings (declarations : List Declaration) :
    Relation.ReflTransGen Tidies declarations (firstBindings declarations) := by
  induction declarations with
  | nil => exact .refl
  | cons first rest inductionHypothesis =>
    have kept : Relation.ReflTransGen Tidies (first :: rest) (first :: firstBindings rest) :=
      inductionHypothesis.lift (first :: ·) fun _ _ step => step.cons first
    refine kept.trans (reaches_filter [first] fun earlier again later _ repeats => ?_)
    simp only [Bool.or_eq_false_iff, Option.isNone_eq_false_iff, bne_eq_false_iff_eq] at repeats
    obtain ⟨binds, same⟩ := repeats
    obtain ⟨name, bound⟩ := Option.isSome_iff_exists.mp binds
    exact .repeated later (List.mem_append_left _ (List.mem_singleton_self first))
      (same.symm.trans bound) bound

/-- The names that declarations bind. -/
def names (declarations : List Declaration) : List Text :=
  declarations.filterMap name?

/-- A declaration that binds a name adds it at its place. -/
theorem names_append_cons {declaration : Declaration} (bound : declaration.name? = some name) :
    names (before ++ declaration :: after) = names before ++ name :: names after := by
  rw [names, List.filterMap_append, List.filterMap_cons_some bound]
  rfl

/-- No name is bound twice when the repetitions are left out. -/
theorem nodup_names_firstBindings (declarations : List Declaration) :
    (names (firstBindings declarations)).Nodup := by
  induction declarations with
  | nil => exact .nil
  | cons first rest inductionHypothesis =>
    have fewer : (names ((firstBindings rest).filter fun later =>
        later.name?.isNone || later.name? != first.name?)).Nodup :=
      inductionHypothesis.sublist (List.filter_sublist.filterMap name?)
    cases bound : first.name? with
    | none =>
      rw [firstBindings, names, List.filterMap_cons_none bound]
      exact fewer
    | some name =>
      rw [firstBindings, names, List.filterMap_cons_some bound]
      refine List.nodup_cons.mpr ⟨fun again => ?_, fewer⟩
      obtain ⟨later, member, boundAgain⟩ := List.mem_filterMap.mp again
      have different := List.of_mem_filter member
      simp [boundAgain, bound] at different

/-- Whether a declaration is a plain input. -/
def isInput : Declaration → Bool
  | input _ => true
  | _ => false

/-- Where no name is bound twice, the inputs are left out. -/
theorem reaches_withoutInputs {declarations : List Declaration}
    (distinct : (names declarations).Nodup) :
    Relation.ReflTransGen Tidies declarations
      (declarations.filter fun declaration => !declaration.isInput) := by
  refine reaches_filter [] fun earlier declaration later parts plain => ?_
  cases declaration with
  | input name =>
    refine .input _ fun other member boundAgain => ?_
    rw [parts, names_append_cons rfl] at distinct
    have single := (List.nodup_cons.mp (List.nodup_append.mp distinct).2.1).1
    exact single (List.mem_filterMap.mpr ⟨other, member, boundAgain⟩)
  | derived derivation => cases plain
  | unknown text => cases plain

/-- Where no name is bound twice, a declaration is found wherever it stands. -/
theorem find?_eq_some_iff_mem {declarations : List Declaration} {declaration : Declaration}
    (distinct : (names declarations).Nodup) :
    find? declarations name = some declaration ↔
      declaration ∈ declarations ∧ declaration.name? = some name := by
  constructor
  · intro found
    have bound := List.find?_some found
    exact ⟨List.mem_of_find?_eq_some found, beq_iff_eq.mp bound⟩
  · rintro ⟨member, bound⟩
    obtain ⟨before, after, rfl⟩ := List.append_of_mem member
    rw [names_append_cons bound] at distinct
    have disjoint := (List.nodup_append.mp distinct).2.2
    have unbound : before.find? (fun other => other.name? == some name) = none := by
      refine List.find?_eq_none.mpr fun other inBefore boundBefore => ?_
      have named := List.mem_filterMap.mpr ⟨other, inBefore, beq_iff_eq.mp boundBefore⟩
      exact disjoint _ named _ List.mem_cons_self rfl
    rw [find?, List.find?_append, unbound, Option.none_or]
    exact find?_cons_of_name? bound

/-- Where no name is bound twice, the order does not matter. -/
theorem deriveAlike_of_perm (perm : left.Perm right) (distinct : (names left).Nodup) (name : Text) :
    DeriveAlike left right name := by
  have distinctToo : (names right).Nodup := (perm.filterMap name?).nodup_iff.mp distinct
  intro derivation
  rw [find?_eq_some_iff_mem distinct, find?_eq_some_iff_mem distinctToo, perm.mem_iff]

end Declaration

namespace Variant

variable {variant other : Variant}

/-- A variant acts with some parameters as another one does with others: it makes the same choice
and shows the same text. -/
structure ActsLike (variant : Variant) (params : Params) (other : Variant) (changed : Params)
    (locale : Text) : Prop extends ChoosesLike variant params other changed locale where
  render (rules : PluralRules) :
    variant.render ⟨params, locale, rules⟩ = other.render ⟨changed, locale, rules⟩

/-- The same variants act alike with either of two lists of declarations. -/
def Interchangeable (left right : List Declaration) : Prop :=
  ∀ selectors table params locale,
    ActsLike ⟨left, selectors, table⟩ params ⟨right, selectors, table⟩ params locale

/-- The value of a selector is the same where it is derived alike. -/
theorem selectorValue_congr {setting : Setting} {name : Text}
    (alike : Declaration.DeriveAlike variant.declarations other.declarations name) :
    variant.selectorValue setting name = other.selectorValue setting name := by
  by_cases derived : ∃ derivation,
      Declaration.find? variant.declarations name = some (.derived derivation)
  · obtain ⟨derivation, isDerivation⟩ := derived
    rw [selectorValue_of_derived isDerivation,
      selectorValue_of_derived ((alike derivation).mp isDerivation)]
  · have underived := not_exists.mp derived
    rw [selectorValue_of_underived underived,
      selectorValue_of_underived fun derivation isDerivation =>
        underived derivation ((alike derivation).mpr isDerivation)]

/-- Variants with the same selectors and table that derive their selectors alike act alike. -/
theorem ActsLike.of_deriveAlike (selectors : variant.selectors = other.selectors)
    (table : variant.table = other.table)
    (alike : ∀ name ∈ variant.selectorNames,
      Declaration.DeriveAlike variant.declarations other.declarations name)
    (params : Params) (locale : Text) : variant.ActsLike params other params locale := by
  have forms : variant.forms = other.forms := congrArg (List.map Prod.fst) table
  have chooses : variant.ChoosesLike params other params locale :=
    .of_selectorValue (selectorNames_congr selectors forms) forms fun _ name member =>
      selectorValue_congr (alike name member)
  refine ⟨chooses, fun rules => ?_⟩
  simp only [Variant.render, activeEntry, chooses.resolve, table]

/-- Lists that derive all names alike are interchangeable. -/
theorem Interchangeable.of_deriveAlike {left right : List Declaration}
    (alike : ∀ name, Declaration.DeriveAlike left right name) : Interchangeable left right := by
  intro selectors table params locale
  refine ActsLike.of_deriveAlike ?_ ?_ ?_ params locale
  · rfl
  · rfl
  · exact fun name _ => alike name

/-- Lists are interchangeable if the one is reached from the other by tidying. -/
theorem Interchangeable.of_reaches {left right : List Declaration}
    (reaches : Relation.ReflTransGen Declaration.Tidies left right) : Interchangeable left right :=
  .of_deriveAlike (Declaration.deriveAlike_of_eqvGen
    (Relation.EqvGen.reflTransGen_le_eqvGen _ _ _ reaches))

/-- Of the declarations only the first one of each selector matters, and only if it derives the
selector. So declarations may be tidied and untidied in any way: texts in neither form may stand
anywhere, repeated declarations and then inputs may be left out, and declarations of different
names may stand in any order. -/
theorem first_derivations_matter :
    (∀ (variant other : Variant) (params : Params) (locale : Text),
      variant.selectors = other.selectors → variant.table = other.table →
      (∀ name ∈ variant.selectorNames, ∀ derivation,
        Declaration.find? variant.declarations name = some (.derived derivation) ↔
          Declaration.find? other.declarations name = some (.derived derivation)) →
      variant.ActsLike params other params locale) ∧
    (∀ left right, Relation.EqvGen Declaration.Tidies left right → Interchangeable left right) ∧
    (∀ declarations, let first := Declaration.firstBindings declarations
      Interchangeable declarations (declarations.filter fun binding => binding.name?.isSome) ∧
        Interchangeable declarations first ∧
        Interchangeable declarations (first.filter fun binding => !binding.isInput)) ∧
    ∀ left right, left.Perm right → (Declaration.names left).Nodup →
      Interchangeable left right := by
  refine ⟨?_, ?_, fun declarations => ⟨?_, ?_, ?_⟩, ?_⟩
  · intro variant other params locale selectors table alike
    exact .of_deriveAlike selectors table alike params locale
  · intro left right tidied
    exact .of_deriveAlike (Declaration.deriveAlike_of_eqvGen tidied)
  · exact .of_reaches (Declaration.reaches_bindings declarations)
  · exact .of_reaches (Declaration.reaches_firstBindings declarations)
  · have distinct := Declaration.nodup_names_firstBindings declarations
    exact .of_reaches ((Declaration.reaches_firstBindings declarations).trans
      (Declaration.reaches_withoutInputs distinct))
  · intro left right perm distinct
    exact .of_deriveAlike (Declaration.deriveAlike_of_perm perm distinct)

/-- A selector that is the plural of an amount. -/
def pluralOfAmount : Declaration := .derived ⟨"k", "n", "plural", .empty⟩

/-- Declarations of which only the plural matters: an input and another derivation come after it,
and nothing is selected on the others. -/
def overgrown : List Declaration :=
  [.unknown "local k", .input "kind", pluralOfAmount, .input "k",
    .derived ⟨"k", "kind", "text", .empty⟩, .input "n"]

/-- A table that is selected from by a plural. -/
def singularOrPlural : MatchTable := [("k=one", "\x7bn\x7d item"), ("k=other", "\x7bn\x7d items")]

/-- The parameters of two items. -/
def twoItems : Params := .ofList [("n", .number (.ofInt 2)), ("k", .text "one")]

/-- All but the plural may be left out, an input may be put before it, and this may stand behind it
instead. -/
theorem first_derivations_matter_overgrown :
    (∀ name ∈ (⟨overgrown, [], singularOrPlural⟩ : Variant).selectorNames, ∀ derivation,
      Declaration.find? overgrown name = some (.derived derivation) ↔
        Declaration.find? [pluralOfAmount] name = some (.derived derivation)) ∧
      ((⟨overgrown, [], singularOrPlural⟩ : Variant).render
        ⟨twoItems, "en", .builtIn⟩).value = Text.ofString "2 items" ∧
      Relation.EqvGen Declaration.Tidies [.input "n", pluralOfAmount] [pluralOfAmount] ∧
      ((⟨[.input "n", pluralOfAmount], [], singularOrPlural⟩ : Variant).activeKey
        ⟨twoItems, "en", .builtIn⟩).value = some (Text.ofString "k=other") ∧
      (Declaration.names [.input "n", pluralOfAmount]).Nodup ∧
      ((⟨[.input "n", pluralOfAmount], [], singularOrPlural⟩ : Variant).render
        ⟨twoItems, "en", .builtIn⟩).value = Text.ofString "2 items" := by
  have alike : ∀ name ∈ (⟨overgrown, [], singularOrPlural⟩ : Variant).selectorNames,
      ∀ derivation, Declaration.find? overgrown name = some (.derived derivation) ↔
        Declaration.find? [pluralOfAmount] name = some (.derived derivation) := by
    have names : (⟨overgrown, [], singularOrPlural⟩ : Variant).selectorNames =
        [Text.ofString "k"] := by
      decide +kernel
    have same : Declaration.find? overgrown "k" = Declaration.find? [pluralOfAmount] "k" := by
      decide +kernel
    intro name member derivation
    rw [names, List.mem_singleton] at member
    rw [member, same]
  have tidied : Relation.EqvGen Declaration.Tidies [.input "n", pluralOfAmount]
      [pluralOfAmount] := by
    refine .rel _ _ (.input [] fun later member => ?_)
    rw [List.mem_singleton.mp member]
    decide +kernel
  have distinct : (Declaration.names [.input "n", pluralOfAmount]).Nodup := by decide +kernel
  obtain ⟨byDerivation, byTidying, -, byOrder⟩ := first_derivations_matter
  have pruned := byDerivation ⟨overgrown, [], singularOrPlural⟩
    ⟨[pluralOfAmount], [], singularOrPlural⟩ twoItems "en" rfl rfl alike
  have cleared := byTidying _ _ tidied [] singularOrPlural twoItems "en"
  have turned := byOrder _ _ (.swap _ _ _) distinct [] singularOrPlural twoItems "en"
  exact ⟨alike, (congrArg Traced.value (pruned.render .builtIn)).trans (by decide +kernel),
    tidied, (congrArg Traced.value (cleared.activeKey .builtIn)).trans (by decide +kernel),
    distinct, (congrArg Traced.value (turned.render .builtIn)).trans (by decide +kernel)⟩

end Variant

end MessageForms
