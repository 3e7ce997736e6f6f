import MessageForms.Proofs.Variant.Agreement
import MessageForms.Proofs.Variant.Choice

/-!
# Comparing the visible form

Two variants are compared by the form that the first one shows: its key is looked up in both, and
the templates that are found are compared. In the first variant this finds the very template that
is shown. An edit of templates leaves the active key as it is, so after it either variant may be
the first, and equal answers mean equal texts.
-/

namespace MessageForms

namespace Variant

variable {variant other : Variant} {setting : Setting}

/-- The template of the entry to show is the one that is found under its key. -/
theorem template?_of_activeEntry {key template : Text}
    (active : (variant.activeEntry setting).value = some (key, template)) :
    variant.template? key = some template := by
  have selects := selects_resolve variant setting
  cases resolved : (variant.resolve setting).value with
  | none => simp [activeEntry, resolved] at active
  | some resolution =>
    rw [resolved] at selects
    obtain ⟨firstKey, firstTemplate, found, first⟩ := selects.first_of_key
    have same : (firstKey, firstTemplate) = (key, template) := by
      simpa [activeEntry, resolved, found] using active
    rw [same] at found
    cases same
    exact template?_of_first found first

/-- Two variants compare as equal exactly if the second one has the template of the entry to show
under the key of this entry. -/
theorem value_activeFormEquals_iff :
    (variant.activeFormEquals other setting).value = true ↔
      ∃ key template, (variant.activeEntry setting).value = some (key, template) ∧
        other.template? key = some template := by
  cases active : (variant.activeEntry setting).value with
  | none => simp [activeFormEquals, activeKey, active]
  | some entry =>
    obtain ⟨key, template⟩ := entry
    have mine := template?_of_activeEntry active
    cases theirs : other.template? key with
    | none => simp [activeFormEquals, activeKey, active, mine, theirs]
    | some found =>
      simp only [activeFormEquals, activeKey, active, mine, theirs, Traced.value_bind,
        Traced.value_pure, Option.map_some, beq_iff_eq, Option.some.injEq, Prod.mk.injEq]
      constructor
      · rintro rfl
        exact ⟨key, template, ⟨rfl, rfl⟩, theirs⟩
      · rintro ⟨_, _, ⟨rfl, rfl⟩, again⟩
        exact Option.some.inj (again.symm.trans theirs)

/-- The entry to show is the one at the place that is found. -/
theorem value_activeEntry_eq_some_iff {entry : Text × Text} :
    (variant.activeEntry setting).value = some entry ↔
      ∃ resolution, (variant.resolve setting).value = some resolution ∧
        variant.table[resolution.index]? = some entry := by
  simp only [activeEntry, Traced.value_bind, Traced.value_pure, Option.bind_eq_some_iff]

/-- Two variants differ in the templates of their tables only. -/
structure DiffersInTemplates (variant other : Variant) : Prop where
  declarations : variant.declarations = other.declarations
  selectors : variant.selectors = other.selectors
  forms : variant.forms = other.forms

namespace DiffersInTemplates

/-- It does not matter which of the two variants is the edited one. -/
theorem symm (edit : variant.DiffersInTemplates other) : other.DiffersInTemplates variant :=
  ⟨edit.declarations.symm, edit.selectors.symm, edit.forms.symm⟩

/-- Templates have no part in the choice of a form. -/
theorem choosesLike (edit : variant.DiffersInTemplates other) (params : Params) (locale : Text) :
    variant.ChoosesLike params other params locale := by
  refine .of_selectorValue (selectorNames_congr edit.selectors edit.forms) edit.forms ?_
  intro rules name _
  rw [selectorValue, selectorValue, edit.declarations]

/-- If the second variant has the template of the first one's entry to show, this entry is its own
entry to show. -/
theorem activeEntry_of_template? (edit : variant.DiffersInTemplates other) {key template : Text}
    (active : (variant.activeEntry setting).value = some (key, template))
    (found : other.template? key = some template) :
    (other.activeEntry setting).value = some (key, template) := by
  have sameKey := (edit.choosesLike setting.params setting.locale).activeKey setting.rules
  have otherKey : (other.activeKey setting).value = some key := by
    rw [← sameKey]
    simp [activeKey, active]
  -- So the second variant shows an entry with this key, and this is the one that is looked up.
  obtain ⟨⟨_, shown⟩, otherActive, rfl⟩ := Option.map_eq_some_iff.mp otherKey
  obtain rfl : shown = template :=
    Option.some.inj ((template?_of_activeEntry otherActive).symm.trans found)
  exact otherActive

/-- Comparing as equal does not depend on the order of the two variants. -/
theorem activeFormEquals_of (edit : variant.DiffersInTemplates other)
    (equal : (variant.activeFormEquals other setting).value = true) :
    (other.activeFormEquals variant setting).value = true := by
  obtain ⟨key, template, active, found⟩ := value_activeFormEquals_iff.mp equal
  exact value_activeFormEquals_iff.mpr
    ⟨key, template, edit.activeEntry_of_template? active found, template?_of_activeEntry active⟩

end DiffersInTemplates

/-- Two variants compare as equal exactly if the first one has entries and the second one has, under
the key of the entry that the first one shows, the template of this entry. So a variant compares as
equal to itself exactly if it has entries. Variants that differ in their templates only have the
same active key and may be compared in either order, and if they compare as equal, they show the
same text. -/
theorem compares_visible_form (variant other : Variant) (setting : Setting) :
    ((variant.activeFormEquals other setting).value = true ↔
      variant.table ≠ [] ∧ ∃ resolution key template,
        (variant.resolve setting).value = some resolution ∧
        variant.table[resolution.index]? = some (key, template) ∧
        other.template? key = some template) ∧
    ((variant.activeFormEquals variant setting).value = true ↔ variant.table ≠ []) ∧
    (variant.DiffersInTemplates other →
      (variant.activeFormEquals other setting).value =
          (other.activeFormEquals variant setting).value ∧
        (variant.activeKey setting).value = (other.activeKey setting).value ∧
        ((variant.activeFormEquals other setting).value = true →
          (variant.render setting).value = (other.render setting).value)) := by
  refine ⟨?_, ?_, fun edit => ⟨?_, ?_, fun equal => ?_⟩⟩
  · rw [value_activeFormEquals_iff]
    constructor
    · rintro ⟨key, template, active, found⟩
      obtain ⟨resolution, resolved, inTable⟩ := value_activeEntry_eq_some_iff.mp active
      have nonempty := List.ne_nil_of_mem (List.mem_of_getElem? inTable)
      exact ⟨nonempty, resolution, key, template, resolved, inTable, found⟩
    · rintro ⟨-, resolution, key, template, resolved, inTable, found⟩
      have active := value_activeEntry_eq_some_iff.mpr ⟨resolution, resolved, inTable⟩
      exact ⟨key, template, active, found⟩
  · rw [value_activeFormEquals_iff]
    constructor
    · rintro ⟨key, template, active, -⟩
      obtain ⟨_, -, inTable⟩ := value_activeEntry_eq_some_iff.mp active
      exact List.ne_nil_of_mem (List.mem_of_getElem? inTable)
    · intro nonempty
      obtain ⟨⟨key, template⟩, -, active⟩ := exists_activeEntry nonempty setting
      exact ⟨key, template, active, template?_of_activeEntry active⟩
  · exact Bool.eq_iff_iff.mpr ⟨edit.activeFormEquals_of, edit.symm.activeFormEquals_of⟩
  · have sameKey := (edit.choosesLike setting.params setting.locale).activeKey setting.rules
    exact congrArg Traced.value sameKey
  · obtain ⟨key, template, active, found⟩ := value_activeFormEquals_iff.mp equal
    have otherActive := edit.activeEntry_of_template? active found
    simp [render, active, otherActive]

/-- A variant with a repeated key. -/
def twiceOne : Variant where
  declarations := []
  selectors := []
  table := [("n=1", "one"), ("n = 1", "1"), ("n=1", "single"), ("n=2", "two")]

/-- The same variant with other templates under all keys but the first. -/
def reworded : Variant where
  declarations := []
  selectors := []
  table := [("n=1", "one"), ("n = 1", "I"), ("n=1", "lone"), ("n=2", "pair")]

/-- The setting of an amount. -/
def amounting (amount : Double) : Setting := ⟨.ofList [("n", .number amount)], "en", .builtIn⟩

/-- The first template of the repeated key is compared, also where no key fits; and it is not
compared where another key fits. -/
theorem compares_visible_form_reworded :
    twiceOne.DiffersInTemplates reworded ∧
      (reworded.activeFormEquals twiceOne (amounting .one)).value = true ∧
      (reworded.render (amounting .zero)).value = Text.ofString "one" ∧
      (reworded.activeFormEquals twiceOne (amounting (.ofInt 2))).value = false := by
  have edit : twiceOne.DiffersInTemplates reworded := ⟨rfl, rfl, by decide +kernel⟩
  have matched := (compares_visible_form twiceOne reworded (amounting .one)).2.2 edit
  have fallback := (compares_visible_form twiceOne reworded (amounting .zero)).2.2 edit
  have other := (compares_visible_form twiceOne reworded (amounting (.ofInt 2))).2.2 edit
  refine ⟨edit, matched.1.symm.trans (by decide +kernel), ?_,
    other.1.symm.trans (by decide +kernel)⟩
  exact (fallback.2.2 (by decide +kernel)).symm.trans (by decide +kernel)

end Variant

end MessageForms
