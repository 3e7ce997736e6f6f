import MessageForms.Proofs.Variant.Resolution

/-!
# What is shown is what is looked up

Rendering takes the template of the entry to show by its index, and an editor takes it by
its key. Whether a key fits depends on its text alone, so no entry before the one to show has
the same key, and both find the same template.
-/

namespace MessageForms

namespace Variant

variable {variant : Variant} {setting : Setting}

/-- A key that is found at an index for the first time has the template that stands there. -/
theorem template?_of_first {index : Nat} {key template : Text}
    (found : variant.table[index]? = some (key, template))
    (first : variant.table.findIdx? (fun entry => entry.1 == key) = some index) :
    variant.template? key = some template := by
  obtain ⟨inTable, -, least⟩ := List.findIdx?_eq_some_iff_getElem.mp first
  have entry : variant.table[index] = (key, template) :=
    (List.getElem?_eq_some_iff.mp found).2
  have parts : variant.table =
      variant.table.take index ++ (key, template) :: variant.table.drop (index + 1) := by
    rw [← entry, List.getElem_cons_drop, List.take_append_drop]
  refine List.lookup_eq_some_iff.mpr ⟨_, _, parts, fun other member => bne_iff_ne.mpr ?_⟩
  intro same
  obtain ⟨earlier, inTake, rfl⟩ := List.mem_iff_getElem.mp member
  rw [List.getElem_take] at same
  rw [List.length_take] at inTake
  exact least earlier (by omega) (by simp [same])

/-- The entry to show is there, and no entry before it has the same key. -/
theorem Selects.first_of_key {resolution : Resolution}
    (selects : variant.Selects setting (some resolution)) :
    ∃ key template, variant.table[resolution.index]? = some (key, template) ∧
      variant.table.findIdx? (fun entry => entry.1 == key) = some resolution.index := by
  cases selects with
  | @first index entry found fits least =>
    obtain ⟨inTable, isEntry⟩ := List.getElem?_eq_some_iff.mp found
    refine ⟨entry.1, entry.2, found, List.findIdx?_eq_some_iff_getElem.mpr ⟨inTable, ?_, ?_⟩⟩
    · simp [isEntry]
    · -- An entry before it with the same key would fit just as well.
      intro earlier before sameKey
      have inBounds : earlier < variant.table.length := Nat.lt_trans before inTable
      refine least earlier before _ (List.getElem?_eq_getElem inBounds) ?_
      rwa [beq_iff_eq.mp sameKey]
  | fallback nonempty unfit =>
    obtain ⟨⟨key, template⟩, rest, table⟩ := List.exists_cons_of_ne_nil nonempty
    exact ⟨key, template, by simp [table], by simp [table, List.findIdx?_cons]⟩

/-- There is an entry to show in every table but an empty one. -/
theorem exists_activeEntry (nonempty : variant.table ≠ []) (setting : Setting) :
    ∃ entry ∈ variant.table, (variant.activeEntry setting).value = some entry := by
  have selects := selects_resolve variant setting
  cases resolved : (variant.resolve setting).value with
  | none =>
    rw [resolved] at selects
    cases selects with
    | nothing empty => exact absurd empty nonempty
  | some resolution =>
    rw [resolved] at selects
    obtain ⟨key, template, found, -⟩ := selects.first_of_key
    exact ⟨(key, template), List.mem_of_getElem? found, by simp [activeEntry, resolved, found]⟩

/-- There is no active key exactly if there is no entry. -/
theorem activeKey_eq_none_iff (variant : Variant) (setting : Setting) :
    (variant.activeKey setting).value = none ↔ variant.table = [] := by
  by_cases empty : variant.table = []
  · exact iff_of_true (by simp [activeKey, activeEntry, resolve, empty]) empty
  · obtain ⟨entry, -, active⟩ := exists_activeEntry empty setting
    exact iff_of_false (by simp [activeKey, active]) empty

/-- A variant without entries shows nothing. Every other one shows an entry of its table,
whether its key fits or it merely is the first: the active key is the key of this entry, the
entry is the first one with this key, and the text is that of its template. -/
theorem render_eq_substitute_template? (variant : Variant) (setting : Setting) :
    (variant.table = [] ∧ (variant.resolve setting).value = none ∧
        (variant.activeKey setting).value = none ∧ (variant.render setting).value = []) ∨
      ∃ resolution key template, (variant.resolve setting).value = some resolution ∧
        resolution.index < variant.table.length ∧
        variant.table[resolution.index]? = some (key, template) ∧
        variant.table.findIdx? (fun entry => entry.1 == key) = some resolution.index ∧
        (variant.activeKey setting).value = some key ∧
        variant.template? key = some template ∧
        (variant.render setting).value = Template.substitute template setting.params := by
  have selects := selects_resolve variant setting
  cases resolved : (variant.resolve setting).value with
  | none =>
    rw [resolved] at selects
    cases selects with
    | nothing empty => exact .inl ⟨empty, rfl, by simp [activeKey, activeEntry, resolved],
        by simp [render, activeEntry, resolved]⟩
  | some resolution =>
    rw [resolved] at selects
    obtain ⟨key, template, found, first⟩ := selects.first_of_key
    have inTable := (List.getElem?_eq_some_iff.mp found).1
    refine .inr ⟨resolution, key, template, rfl, inTable, found, first, ?_,
      template?_of_first found first, ?_⟩
    · simp [activeKey, activeEntry, resolved, found]
    · simp [render, activeEntry, resolved, found]

end Variant

end MessageForms
